import Mathlib.Data.List.Forall2
import Mathlib.Data.List.Nodup
import Tabular.Proofs.Name.Token
import Tabular.Text

/-! Names told apart by a number: each is a candidate of its own base, in the order of the bases, and no two
have the same key. -/
namespace Tabular.Text

section Claim
variable {α κ : Type} [BEq κ] {key : α → κ}

theorem firstFreeCandidate (taken : List κ) (candidate : Nat → α) :
    ∃ k, firstFree key taken candidate = candidate k := by
  have search (tries k : Nat) : ∃ j, firstFree.go key taken candidate tries k = candidate j := by
    induction tries generalizing k with
    | zero => exact ⟨k, rfl⟩
    | succ tries ih =>
      unfold firstFree.go
      split
      · exact ih (k + 1)
      · exact ⟨k, rfl⟩
  exact search _ 0

theorem claimAllCandidates {β : Type} (candidate : β → Nat → α) (taken : List κ) (bs : List β) :
    List.Forall₂ (fun b name => ∃ k, name = candidate b k) bs (claimAll key candidate taken bs) := by
  induction bs generalizing taken with
  | nil => exact .nil
  | cons b bs ih => exact .cons (firstFreeCandidate taken (candidate b)) (ih _)

variable [LawfulBEq κ]

structure StopsAt (key : α → κ) (taken : List κ) (candidate : Nat → α) (k : Nat) : Prop where
  passed : ∀ j < k, key (candidate j) ∈ taken
  free : key (candidate k) ∉ taken

theorem firstFreeStops (taken : List κ) {candidate : Nat → α}
    (apart : Function.Injective fun k => key (candidate k)) :
    ∃ k ≤ taken.length, firstFree key taken candidate = candidate k ∧ StopsAt key taken candidate k := by
  have search (tries k : Nat) (count : tries + k = taken.length) (tried : ∀ j < k, key (candidate j) ∈ taken) :
      ∃ j ≤ taken.length, firstFree.go key taken candidate tries k = candidate j ∧
        StopsAt key taken candidate j := by
    induction tries generalizing k with
    | zero =>
      refine ⟨k, by omega, rfl, tried, fun last => ?_⟩
      -- were this one taken as well, more different keys would be taken than there are
      have all : (List.range (k + 1)).map (fun j => key (candidate j)) ⊆ taken := by
        intro x member
        obtain ⟨j, below, rfl⟩ := List.mem_map.mp member
        rcases Nat.lt_succ_iff_lt_or_eq.mp (List.mem_range.mp below) with earlier | rfl
        · exact tried j earlier
        · exact last
      have short := (List.nodup_range.map apart).length_le_of_subset all
      rw [List.length_map, List.length_range] at short
      omega
    | succ tries ih =>
      unfold firstFree.go
      split
      · rename_i there
        refine ih (k + 1) (by omega) fun j below => ?_
        rcases Nat.lt_succ_iff_lt_or_eq.mp below with earlier | rfl
        · exact tried j earlier
        · simpa using there
      · rename_i free
        exact ⟨k, by omega, rfl, tried, by simpa using free⟩
  exact search _ 0 rfl (by simp)

theorem firstFreeFresh {taken : List κ} {candidate : Nat → α}
    (apart : Function.Injective fun k => key (candidate k)) : key (firstFree key taken candidate) ∉ taken := by
  obtain ⟨k, _, found, stops⟩ := firstFreeStops taken apart
  rw [found]
  exact stops.free

theorem claimAllDistinct {β : Type} {candidate : β → Nat → α}
    (apart : ∀ b, Function.Injective fun k => key (candidate b k)) (taken : List κ) (bs : List β) :
    ((claimAll key candidate taken bs).map key).Nodup ∧
      ∀ name ∈ claimAll key candidate taken bs, key name ∉ taken := by
  induction bs generalizing taken with
  | nil => simp [claimAll]
  | cons b bs ih =>
    obtain ⟨distinct, fresh⟩ := ih (key (firstFree key taken (candidate b)) :: taken)
    rw [claimAll, List.map_cons, List.nodup_cons, List.forall_mem_cons]
    refine ⟨⟨fun there => ?_, distinct⟩, firstFreeFresh (apart b), fun name member there => ?_⟩
    · obtain ⟨name, member, same⟩ := List.mem_map.mp there
      exact fresh name member (same ▸ List.mem_cons_self)
    · exact fresh name member (List.mem_cons_of_mem _ there)

theorem claimAllStops {β : Type} {candidate : β → Nat → α}
    (apart : ∀ b, Function.Injective fun k => key (candidate b k)) {bs : List β} {i : Nat} {b : β}
    (claimer : bs[i]? = some b) (taken : List κ) : ∃ k ≤ taken.length + i,
      (claimAll key candidate taken bs)[i]? = some (candidate b k) ∧
      StopsAt key ((((claimAll key candidate taken bs).take i).map key).reverse ++ taken) (candidate b) k := by
  induction bs generalizing i taken with
  | nil => cases claimer
  | cons first bs ih =>
    cases i with
    | zero =>
      cases Option.some.inj claimer
      obtain ⟨k, few, found, stops⟩ := firstFreeStops taken (apart b)
      exact ⟨k, few, by simp [claimAll, found], by simpa using stops⟩
    | succ i =>
      obtain ⟨k, few, found, stops⟩ := ih claimer (key (firstFree key taken (candidate first)) :: taken)
      refine ⟨k, ?_, by simpa [claimAll] using found, by simpa [claimAll] using stops⟩
      rw [List.length_cons] at few
      omega

/-- Each name is the first of its candidates that no name in front of it has taken, and it is found among no more
candidates than there are names in front, and one. -/
def ClaimedInOrder {β : Type} (key : α → κ) (candidate : β → Nat → α) (bs : List β) (names : List α) : Prop :=
  ∀ i b, bs[i]? = some b → ∃ k ≤ i, names[i]? = some (candidate b k) ∧
    StopsAt key ((names.take i).map key) (candidate b) k

theorem claimedInOrder {β : Type} {candidate : β → Nat → α}
    (apart : ∀ b, Function.Injective fun k => key (candidate b k)) (bs : List β) :
    ClaimedInOrder key candidate bs (claimAll key candidate [] bs) := by
  intro i b claimer
  obtain ⟨k, few, found, passed, free⟩ := claimAllStops apart claimer []
  rw [List.append_nil] at passed free
  rw [List.length_nil, Nat.zero_add] at few
  exact ⟨k, few, found, fun j below => List.mem_reverse.mp (passed j below), mt List.mem_reverse.mpr free⟩

end Claim

theorem decimalInjective {m n : Nat} (same : decimal m = decimal n) : m = n := by
  have values := congrArg (fun digits => Nat.ofDigitChars 10 digits 0) same
  simpa [decimal, Nat.ofDigitChars_ten_toDigits] using values

theorem numberedApart {candidate : Nat → List Char} {base mark : List Char} (marked : mark ≠ [])
    (first : candidate 0 = base) (later : ∀ k, candidate (k + 1) = base ++ (mark ++ decimal (k + 2))) :
    Function.Injective candidate := by
  have longer (k : Nat) : candidate 0 ≠ candidate (k + 1) := by
    rw [first, later]
    simp [marked]
  intro j k same
  cases j with
  | zero =>
    cases k with
    | zero => rfl
    | succ k => exact absurd same (longer k)
  | succ j =>
    cases k with
    | zero => exact absurd same.symm (longer j)
    | succ k =>
      rw [later, later] at same
      have := decimalInjective (List.append_cancel_left (List.append_cancel_left same))
      omega

theorem decimalDigits (n : Nat) : ∀ c ∈ decimal n, c.isDigit = true :=
  fun _ mem => Nat.isDigit_of_mem_toDigits (by decide) (by decide) mem

theorem decimalSolid (n : Nat) : decimal n ≠ [] ∧ ∀ c ∈ decimal n, Unicode.isBlank c = false :=
  ⟨Nat.toDigits_ne_nil, fun c mem => Name.asciiFilled (.inr (decimalDigits n c mem))⟩

end Tabular.Text

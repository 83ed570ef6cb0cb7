import Mathlib.Data.List.TakeWhile
import Tabular.Unicode.Lowercase

/-! Lower case in context. What a capital sigma becomes depends on the first character on either side that
does not give way; every other character is lowered on its own. -/
namespace Tabular.Unicode

def lowered (before : List Char) (c : Char) (rest : List Char) : List Char :=
  if c = '\u03A3' then [if reachesCased before && !reachesCased rest then '\u03C2' else '\u03C3'] else lowerChar c

theorem lowerAfterCons (before : List Char) (c : Char) (rest : List Char) :
    lowerAfter before (c :: rest) = lowered before c rest ++ lowerAfter (c :: before) rest := rfl

theorem reachesCasedFront {rest : List Char} (solid : ∃ c ∈ rest, isCaseIgnorable c = false) (tail : List Char) :
    reachesCased (rest ++ tail) = reachesCased rest := by
  unfold reachesCased
  induction rest with
  | nil => simp at solid
  | cons c rest ih =>
    by_cases ignored : isCaseIgnorable c = true
    · have later : ∃ c ∈ rest, isCaseIgnorable c = false := by simpa [ignored] using solid
      rw [List.cons_append, List.dropWhile_cons_of_pos ignored, List.dropWhile_cons_of_pos ignored, ih later]
    · rw [List.cons_append, List.dropWhile_cons_of_neg ignored, List.dropWhile_cons_of_neg ignored]

theorem reachesCasedPast {rest : List Char} (ignored : ∀ c ∈ rest, isCaseIgnorable c = true) (tail : List Char) :
    reachesCased (rest ++ tail) = reachesCased tail := by
  rw [reachesCased, List.dropWhile_append_of_pos ignored, reachesCased]

theorem reachesCasedIgnored {rest : List Char} (ignored : ∀ c ∈ rest, isCaseIgnorable c = true) :
    reachesCased rest = false := by
  rw [← List.append_nil rest, reachesCasedPast ignored]
  rfl

structure Divides (c : Char) : Prop where
  solid : isCaseIgnorable c = false
  caseless : isCased c = false

section Divides
variable {c : Char} (divides : Divides c)
include divides

theorem reachesCasedDivided (rest tail : List Char) : reachesCased (rest ++ c :: tail) = reachesCased rest := by
  by_cases solid : ∃ d ∈ rest, isCaseIgnorable d = false
  · exact reachesCasedFront solid _
  · have ignored : ∀ d ∈ rest, isCaseIgnorable d = true := by simpa using solid
    rw [reachesCasedPast ignored, reachesCasedIgnored ignored, reachesCased,
      List.dropWhile_cons_of_neg (by simp [divides.solid])]
    exact divides.caseless

theorem lowerAfterDivider (near before s : List Char) : lowerAfter (near ++ c :: before) s = lowerAfter near s := by
  induction s generalizing near with
  | nil => rfl
  | cons d s ih =>
    have same : lowered (near ++ c :: before) d s = lowered near d s := by
      rw [lowered, lowered, reachesCasedDivided divides]
    rw [lowerAfterCons, lowerAfterCons, same, ← List.cons_append, ih]

theorem lowerDivided (s tail : List Char) : lower (s ++ c :: tail) = lower s ++ (lowerChar c ++ lower tail) := by
  have front (before : List Char) :
      lowerAfter before (s ++ c :: tail) = lowerAfter before s ++ (lowerChar c ++ lower tail) := by
    induction s generalizing before with
    | nil =>
      have other : c ≠ '\u03A3' := by
        rintro rfl
        have caseless := divides.caseless
        revert caseless
        decide
      have behind := lowerAfterDivider divides [] before tail
      rw [List.nil_append] at behind
      rw [List.nil_append, lowerAfterCons, lowered, if_neg other, behind]
      rfl
    | cons d s ih =>
      have same : lowered before d (s ++ c :: tail) = lowered before d s := by
        rw [lowered, lowered, reachesCasedDivided divides]
      rw [List.cons_append, lowerAfterCons, lowerAfterCons, same, ih, List.append_assoc]
  exact front []

end Divides

theorem sigmaSolid : isCaseIgnorable '\u03A3' = false ∧ isCaseIgnorable '\u03C3' = false := by decide +kernel

def endsInSigma (s : List Char) : Bool :=
  match s.reverse.dropWhile isCaseIgnorable with
  | [] => false
  | c :: before => c = '\u03A3' && reachesCased before

theorem endsInSigmaSplit {s : List Char} : endsInSigma s = true ↔ ∃ front tail, s = front ++ '\u03A3' :: tail ∧
    reachesCased front.reverse = true ∧ ∀ c ∈ tail, isCaseIgnorable c = true := by
  constructor
  · intro ends
    unfold endsInSigma at ends
    split at ends
    · contradiction
    · rename_i c before kept
      simp only [Bool.and_eq_true, decide_eq_true_eq] at ends
      obtain ⟨rfl, behind⟩ := ends
      refine ⟨before.reverse, (s.reverse.takeWhile isCaseIgnorable).reverse, ?_, by simpa using behind, fun c mem => ?_⟩
      · have whole := congrArg List.reverse (List.takeWhile_append_dropWhile (p := isCaseIgnorable) (l := s.reverse))
        rw [kept] at whole
        simpa using whole.symm
      · exact List.mem_takeWhile_imp (List.mem_reverse.mp mem)
  · rintro ⟨front, tail, rfl, behind, ignored⟩
    have back : (front ++ '\u03A3' :: tail).reverse = tail.reverse ++ '\u03A3' :: front.reverse := by simp
    rw [endsInSigma, back, List.dropWhile_append_of_pos (by simpa using ignored),
      List.dropWhile_cons_of_neg (by simp [sigmaSolid.1])]
    simpa using behind

theorem lowerFollowed {s : List Char} (plain : endsInSigma s = false) (t : List Char) :
    lower (s ++ t) = lower s ++ lowerAfter s.reverse t := by
  have front (before s : List Char) (plain : ∀ f tail, s = f ++ '\u03A3' :: tail →
      reachesCased (f.reverse ++ before) = true → ∃ c ∈ tail, isCaseIgnorable c = false) :
      lowerAfter before (s ++ t) = lowerAfter before s ++ lowerAfter (s.reverse ++ before) t := by
    induction s generalizing before with
    | nil => rfl
    | cons c s ih =>
      have same : lowered before c (s ++ t) = lowered before c s := by
        unfold lowered
        split
        · rename_i sigma
          by_cases solid : ∃ d ∈ s, isCaseIgnorable d = false
          · rw [reachesCasedFront solid]
          · have start : reachesCased before = false := by
              by_contra behind
              exact solid (plain [] s (by rw [sigma]; rfl) (by simpa using behind))
            rw [start]
            rfl
        · rfl
      have later := ih (c :: before) fun f tail split behind =>
        plain (c :: f) tail (by rw [split]; rfl) (by simpa using behind)
      rw [List.cons_append, lowerAfterCons, lowerAfterCons, same, later]
      simp
  have none : ∀ f tail, s = f ++ '\u03A3' :: tail → reachesCased (f.reverse ++ []) = true →
      ∃ c ∈ tail, isCaseIgnorable c = false := by
    intro f tail split behind
    by_contra ignored
    have ends : endsInSigma s = true :=
      endsInSigmaSplit.mpr ⟨f, tail, split, by simpa using behind, by simpa using ignored⟩
    rw [plain] at ends
    contradiction
  have whole := front [] s none
  rwa [List.append_nil] at whole

theorem lowerAfterFront {c : Char} (solid : isCaseIgnorable c = false) (before s : List Char) :
    ∃ a, ∀ tail, lowerAfter before (s ++ c :: tail) = a ++ lowerAfter (s.reverse ++ before) (c :: tail) := by
  induction s generalizing before with
  | nil => exact ⟨[], fun _ => rfl⟩
  | cons d s ih =>
    obtain ⟨a, later⟩ := ih (d :: before)
    refine ⟨lowered before d (s ++ [c]) ++ a, fun tail => ?_⟩
    have near : reachesCased (s ++ c :: tail) = reachesCased (s ++ [c]) := by
      rw [List.append_cons s c tail]
      exact reachesCasedFront ⟨c, by simp, solid⟩ tail
    have same : lowered before d (s ++ c :: tail) = lowered before d (s ++ [c]) := by
      rw [lowered, lowered, near]
    rw [List.cons_append, lowerAfterCons, same, later]
    simp

theorem lowerAfterIgnored {s : List Char} (ignored : ∀ c ∈ s, isCaseIgnorable c = true) (before t : List Char) :
    lowerAfter before (s ++ t) = s.flatMap lowerChar ++ lowerAfter (s.reverse ++ before) t := by
  induction s generalizing before with
  | nil => rfl
  | cons c s ih =>
    obtain ⟨first, rest⟩ := List.forall_mem_cons.mp ignored
    have other : c ≠ '\u03A3' := by
      rintro rfl
      rw [sigmaSolid.1] at first
      contradiction
    rw [List.cons_append, lowerAfterCons, lowered, if_neg other, ih rest]
    simp

theorem codeOfNat {c : Char} {n : Nat} (made : c = Char.ofNat n) (filled : c ≠ '\x00') : c.toNat = n := by
  subst made
  by_cases valid : n.isValidChar
  · rw [Char.ofNat, dif_pos valid]
    rfl
  · rw [Char.ofNat, dif_neg valid] at filled
    exact absurd rfl filled

theorem asciiMissesSigma : ∀ n < 0x80, '\u03C3' ∉ lowerChar (Char.ofNat n) := by decide +kernel

theorem runsMissSigma : ∀ r ∈ caseRuns, r.covers (963 - r.shift).toNat = true → (963 - r.shift).toNat = 931 := by
  decide +kernel

theorem sigmaLowered {c : Char} (member : '\u03C3' ∈ lowerChar c) : c = '\u03A3' ∨ c = '\u03C3' := by
  by_cases ascii : c.toNat < 0x80
  · have missed := asciiMissesSigma c.toNat ascii
    rw [Char.ofNat_toNat] at missed
    exact absurd member missed
  · rw [lowerChar, if_neg ascii] at member
    split at member
    · simp at member
    · split at member
      · rename_i r found
        have shifted : 963 = (Int.ofNat c.toNat + r.shift).toNat :=
          codeOfNat (List.mem_singleton.mp member) (by decide)
        rw [Int.ofNat_eq_natCast] at shifted
        have back : (963 - r.shift).toNat = c.toNat := by omega
        have covered := List.find?_some found
        have known := runsMissSigma r (List.mem_of_find?_eq_some found)
        rw [back] at known
        exact .inl (Char.toNat_inj.mp (known covered))
      · exact .inr (List.mem_singleton.mp member).symm

theorem lowerFinal {s : List Char} (ends : endsInSigma s = true) {t : List Char} (reaches : reachesCased t = true) :
    ∃ a b, '\u03C3' ∉ b ∧ lower s = a ++ '\u03C2' :: b ∧
      lower (s ++ t) = a ++ '\u03C3' :: (b ++ lowerAfter s.reverse t) := by
  obtain ⟨front, tail, rfl, behind, ignored⟩ := endsInSigmaSplit.mp ends
  obtain ⟨a, same⟩ := lowerAfterFront sigmaSolid.1 [] front
  rw [List.append_nil] at same
  have last : lowered front.reverse '\u03A3' tail = ['\u03C2'] := by
    rw [lowered, reachesCasedIgnored ignored, behind]
    rfl
  -- behind the last sigma of the word a letter follows now, and its final form gives way
  have followed : lowered front.reverse '\u03A3' (tail ++ t) = ['\u03C3'] := by
    rw [lowered, reachesCasedPast ignored, reaches, behind]
    rfl
  refine ⟨a, tail.flatMap lowerChar, fun member => ?_, ?_, ?_⟩
  · obtain ⟨c, inside, source⟩ := List.mem_flatMap.mp member
    have gives := ignored c inside
    rcases sigmaLowered source with rfl | rfl
    · rw [sigmaSolid.1] at gives
      contradiction
    · rw [sigmaSolid.2] at gives
      contradiction
  · have alone := lowerAfterIgnored ignored ('\u03A3' :: front.reverse) []
    rw [List.append_nil] at alone
    rw [lower, same, lowerAfterCons, last, alone]
    simp [lowerAfter]
  · rw [lower, List.append_assoc, List.cons_append, same, lowerAfterCons, followed, lowerAfterIgnored ignored]
    simp

theorem splitLast {α : Type} {x : α} {as bs cs ds : List α} (left : x ∉ bs) (right : x ∉ ds)
    (same : as ++ x :: bs = cs ++ x :: ds) : as = cs ∧ bs = ds := by
  rcases List.append_eq_append_iff.mp same with ⟨gap, rfl, rest⟩ | ⟨gap, rfl, rest⟩
  · cases gap with
    | nil => simpa using rest
    | cons y gap =>
      simp only [List.cons_append, List.cons.injEq] at rest
      exact absurd (by simp [rest.2]) left
  · cases gap with
    | nil => simpa using rest.symm
    | cons y gap =>
      simp only [List.cons_append, List.cons.injEq] at rest
      exact absurd (by simp [rest.2]) right

theorem lowerMeets {s s' t : List Char} (fixed : ∀ before, lowerAfter before t = t)
    (reaches : reachesCased t = true) (apart : lower s ≠ lower s') (same : lower (s ++ t) = lower (s' ++ t)) :
    endsInSigma s ≠ endsInSigma s' := by
  intro alike
  cases ends : endsInSigma s with
  | false =>
    rw [lowerFollowed ends, lowerFollowed (alike ▸ ends), fixed, fixed] at same
    exact apart (List.append_cancel_right same)
  | true =>
    obtain ⟨a, b, absent, whole, followed⟩ := lowerFinal ends reaches
    obtain ⟨a', b', absent', whole', followed'⟩ := lowerFinal (alike ▸ ends) reaches
    rw [followed, followed', fixed, fixed, ← List.cons_append, ← List.cons_append, ← List.append_assoc,
      ← List.append_assoc] at same
    obtain ⟨rfl, rfl⟩ := splitLast absent absent' (List.append_cancel_right same)
    exact apart (whole.trans whole'.symm)

end Tabular.Unicode

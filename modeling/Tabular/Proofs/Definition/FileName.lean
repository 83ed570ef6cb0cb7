import Tabular.Definition.Writing
import Tabular.Proofs.Text.Lines
import Tabular.Proofs.Text.Numbered
import Tabular.Proofs.Unicode.Lowercase

/-! File names are fit to be one segment of a path, and names claimed one after the other stay apart, in any
letter case. -/
namespace Tabular.Definition
open Unicode Text

structure Stem (s : List Char) : Prop where
  filled : s ≠ []
  starts : StartsFilled s
  dotless : ∀ c ∈ s.getLast?, c ≠ '.'
  allowed : ∀ c ∈ s, isForbidden c = false

def replaced (name : List Char) : List Char := name.map fun c => if isForbidden c then '_' else c

theorem replacedAllowed (name : List Char) : ∀ c ∈ replaced name, isForbidden c = false := by
  intro c member
  obtain ⟨b, _, rfl⟩ := List.mem_map.mp member
  split
  · decide
  · rename_i allowed
    simpa using allowed

theorem replacedFixed {s : List Char} (allowed : ∀ c ∈ s, isForbidden c = false) : replaced s = s := by
  have same : replaced s = s.map id := List.map_congr_left fun c member => by simp [allowed c member]
  rwa [List.map_id] at same

def cut (name : List Char) : List Char := dropEndWhile (· = '.') (trim (replaced name))

theorem stemCut (name : List Char) :
    (cut name = [] ∧ stemChars name = ['_']) ∨ (cut name ≠ [] ∧ stemChars name = cut name) := by
  unfold cut replaced stemChars
  split
  · rename_i none
    exact .inl ⟨none, rfl⟩
  · rename_i filled
    exact .inr ⟨filled, rfl⟩

theorem cutSplit (name : List Char) : ∃ dots, trim (replaced name) = cut name ++ dots ∧ ∀ c ∈ dots, c = '.' := by
  obtain ⟨dots, whole, all⟩ := dropEndWhileSplit (p := (· = '.')) (s := trim (replaced name))
  exact ⟨dots, whole, by simpa using all⟩

theorem markStem : Stem ['_'] ∧ EndsFilled ['_'] := by
  have only {c : Char} (found : some '_' = some c) : isBlank c = false ∧ c ≠ '.' ∧ isForbidden c = false := by
    cases Option.some.inj found
    decide
  exact ⟨⟨by simp, fun c first => (only first).1, fun c last => (only last).2.1, fun c member =>
    (only (congrArg some (List.mem_singleton.mp member).symm)).2.2⟩, fun c last => (only last).1⟩

theorem stemCharsStem (name : List Char) : Stem (stemChars name) := by
  rcases stemCut name with ⟨_, single⟩ | ⟨filled, kept⟩
  · rw [single]
    exact markStem.1
  · obtain ⟨dots, whole, _⟩ := cutSplit name
    have starts := trimStarts (replaced name)
    have last : ∀ c ∈ (cut name).getLast?, decide (c = '.') = false := dropEndWhileLast
    rw [kept]
    refine ⟨filled, fun c first => starts c ?_, by simpa using last, fun c member => replacedAllowed name c ?_⟩
    · rw [whole, List.head?_append_of_ne_nil _ filled]
      exact first
    · have trimmed : c ∈ trim (replaced name) := by
        rw [whole]
        exact List.mem_append_left _ member
      exact (List.dropWhile_suffix _).subset (trimEndMem trimmed)

/-- Once the blanks around it are gone, the name ends in dots with a blank in front of them. -/
def DotsBehindBlank (name : List Char) : Prop := ∃ front blank dots, trim (replaced name) = front ++ blank :: dots ∧
  isBlank blank = true ∧ dots ≠ [] ∧ ∀ c ∈ dots, c = '.'

theorem stemEnds (name : List Char) : EndsFilled (stemChars name) ↔ ¬ DotsBehindBlank name := by
  constructor
  · rintro ends ⟨front, blank, dots, whole, isBlank, _, all⟩
    have none : dropEndWhile (· = '.') dots = [] := dropEndWhileNil.mpr (by simpa using all)
    have other : blank ≠ '.' := by
      rintro rfl
      revert isBlank
      decide
    have kept : dropEndWhile (· = '.') (front ++ [blank]) = front ++ [blank] :=
      dropEndWhileFixed (by simpa using other)
    have left : cut name = front ++ [blank] := by
      rw [cut, whole, List.append_cons, dropEndWhileAppend, if_pos none, kept]
    rcases stemCut name with ⟨empty, _⟩ | ⟨_, stem⟩
    · simp [left] at empty
    · have filled := ends blank (by rw [stem, left]; simp)
      rw [isBlank] at filled
      contradiction
  · intro clean
    rcases stemCut name with ⟨_, single⟩ | ⟨_, stem⟩
    · rw [single]
      exact markStem.2
    · rw [stem]
      intro c last
      by_contra blank
      obtain ⟨dots, whole, all⟩ := cutSplit name
      obtain ⟨front, ends⟩ := List.getLast?_eq_some_iff.mp last
      rw [ends, List.append_assoc] at whole
      refine clean ⟨front, c, dots, whole, by simpa using blank, ?_, all⟩
      rintro rfl
      have filled := trimEndEnds (trimStart (replaced name)) c
      rw [← trim, whole] at filled
      exact blank (filled (by simp))

theorem stemFixed {s : List Char} (stem : Stem s) : stemChars s = s ↔ EndsFilled s := by
  have same := replacedFixed stem.allowed
  constructor
  · intro fixed
    rcases stemCut s with ⟨_, single⟩ | ⟨_, kept⟩
    · rw [← fixed, single]
      exact markStem.2
    · obtain ⟨dots, undotted, _⟩ := cutSplit s
      obtain ⟨blanks, unspaced, _⟩ := trimEndSplit s
      rw [← kept, fixed, same, trim, trimStartFixed stem.starts] at undotted
      -- Cutting the end off twice leaves the whole, so nothing was cut off the first time either.
      have longer := congrArg List.length undotted
      have shorter := congrArg List.length unspaced
      rw [List.length_append] at longer shorter
      have none : blanks = [] := List.length_eq_zero_iff.mp (by omega)
      rw [none, List.append_nil] at unspaced
      rw [unspaced]
      exact trimEndEnds s
  · intro ends
    have kept : dropEndWhile (· = '.') s = s := dropEndWhileFixed (by simpa using stem.dotless)
    have whole : cut s = s := by rw [cut, same, trimFixed stem.starts ends, kept]
    rcases stemCut s with ⟨empty, _⟩ | ⟨_, fixed⟩
    · exact absurd (whole ▸ empty) stem.filled
    · rw [fixed, whole]

theorem digitRange {c : Char} (digit : c.isDigit = true) : 48 ≤ c.toNat ∧ c.toNat ≤ 57 := by
  simpa [Char.isDigit, UInt32.le_iff_toNat_le] using digit

theorem digitAllowed {c : Char} (digit : c.isDigit = true) : isForbidden c = false ∧ c ≠ '.' := by
  have range := digitRange digit
  have other {b : Char} (apart : b.toNat < 48 ∨ 57 < b.toNat) : c ≠ b := by
    rintro rfl
    omega
  refine ⟨?_, other (by decide)⟩
  have control : isControl c = false := by
    unfold isControl
    simp
    omega
  simp [isForbidden, control, other (b := '<') (by decide), other (b := '>') (by decide),
    other (b := ':') (by decide), other (b := '\x22') (by decide), other (b := '/') (by decide),
    other (b := '\\') (by decide), other (b := '|') (by decide), other (b := '?') (by decide),
    other (b := '*') (by decide)]

theorem stemCandidateStem (name : String) (k : Nat) : Stem (stemCandidate name k) := by
  have base := stemCharsStem name.toList
  cases k with
  | zero => exact base
  | succ k =>
    have digits := decimalDigits (k + 2)
    refine ⟨by simp [stemCandidate], fun c first => ?_, fun c last => ?_, fun c member => ?_⟩
    · rw [stemCandidate, List.head?_append_of_ne_nil _ base.filled] at first
      exact base.starts c first
    · rw [stemCandidate, List.getLast?_append, List.getLast?_cons] at last
      have ends : c ∈ decimal (k + 2) := by
        rw [List.getLast?_eq_some_getLast (decimalSolid (k + 2)).1] at last
        cases Option.some.inj last
        exact List.getLast_mem _
      exact (digitAllowed (digits c ends)).2
    · rcases List.mem_append.mp member with old | new
      · exact base.allowed c old
      · rcases List.mem_cons.mp new with rfl | digit
        · decide
        · exact (digitAllowed (digits c digit)).1

theorem uniqueStemsStem (names : List String) : ∀ s ∈ uniqueStems names, Stem s.toList := by
  have candidates : List.Forall₂ (fun name chars => ∃ k, chars = stemCandidate name k) names
      (claimAll lower stemCandidate [] names) := claimAllCandidates ..
  intro s member
  obtain ⟨chars, claimed, rfl⟩ := List.mem_map.mp member
  obtain ⟨i, inside, rfl⟩ := List.getElem_of_mem claimed
  obtain ⟨k, same⟩ := candidates.get (by rw [candidates.length_eq]; exact inside) inside
  rw [String.toList_ofList]
  simp only [List.get_eq_getElem] at same
  rw [same]
  exact stemCandidateStem _ k

theorem lowerDigits (before : List Char) {s : List Char} (digits : ∀ c ∈ s, c.isDigit = true) :
    lowerAfter before s = s := by
  induction s generalizing before with
  | nil => rfl
  | cons c s ih =>
    obtain ⟨digit, rest⟩ := List.forall_mem_cons.mp digits
    have range := digitRange digit
    have other : c ≠ '\u03A3' := by
      rintro rfl
      revert digit
      decide
    have same : lowerChar c = [c] := by
      have notUpper : ¬ (c.val ≥ 'A'.val ∧ c.val ≤ 'Z'.val) := by
        rintro ⟨above, _⟩
        have above : 65 ≤ c.toNat := above
        omega
      have lowered : c.toLower = c := dif_neg notUpper
      rw [lowerChar, if_pos (by omega), lowered]
    rw [lowerAfter, if_neg other, same, ih (c :: before) rest]
    rfl

theorem lowerNumbered (s : List Char) (n : Nat) : lower (s ++ '_' :: decimal n) = lower s ++ '_' :: decimal n := by
  have mark : lowerChar '_' = ['_'] := by decide
  have digits : lower (decimal n) = decimal n := lowerDigits [] (decimalDigits n)
  rw [lowerDivided ⟨by decide, by decide⟩, mark, digits]
  rfl

theorem stemKeysApart (name : String) : Function.Injective fun k => lower (stemCandidate name k) :=
  numberedApart (List.cons_ne_nil '_' []) rfl fun k => by simp [stemCandidate, lowerNumbered]

theorem uniqueStemsApart (names : List String) : ((uniqueStems names).map fun s => lower s.toList).Nodup := by
  have claimed : ((claimAll lower stemCandidate [] names).map lower).Nodup :=
    (claimAllDistinct stemKeysApart [] names).1
  simpa [uniqueStems, List.map_map, Function.comp_def] using claimed

theorem uniqueStemsNodup (names : List String) : (uniqueStems names).Nodup := (uniqueStemsApart names).of_map _

end Tabular.Definition

import Tabular.Text

/-! Trimming, splitting at a mark, and the lines of a text that is made of lines. -/
namespace Tabular.Text
open Unicode (isBlank)

def OneLine (s : List Char) : Prop := '\n' ∉ s
instance (s) : Decidable (OneLine s) := @instDecidableNot _ (List.instDecidableMemOfLawfulBEq '\n' s)

def StartsFilled (s : List Char) : Prop := ∀ c ∈ s.head?, isBlank c = false
def EndsFilled (s : List Char) : Prop := ∀ c ∈ s.getLast?, isBlank c = false

structure LineText (s : List Char) : Prop where
  filled : s ≠ []
  ends : EndsFilled s
  flat : OneLine s

section DropEnd
variable {p : Char → Bool} {s t : List Char}

theorem dropEndWhileNil : dropEndWhile p s = [] ↔ ∀ c ∈ s, p c = true := by
  induction s with
  | nil => simp [dropEndWhile]
  | cons c rest ih =>
    cases h : dropEndWhile p rest with
    | nil => simp [dropEndWhile, h, ← ih]
    | cons d kept => simp [dropEndWhile, h, ← ih]

theorem dropEndWhileAppend : dropEndWhile p (s ++ t) =
    if dropEndWhile p t = [] then dropEndWhile p s else s ++ dropEndWhile p t := by
  by_cases ends : dropEndWhile p t = []
  · induction s with
    | nil => simp [ends, dropEndWhile]
    | cons c rest ih =>
      rw [if_pos ends] at ih ⊢
      simp only [List.cons_append, dropEndWhile, ih]
  · induction s with
    | nil => simp [ends]
    | cons c rest ih =>
      rw [if_neg ends] at ih ⊢
      simp only [List.cons_append, dropEndWhile, ih]
      cases h : rest ++ dropEndWhile p t <;> simp_all

theorem dropEndWhileKept (filled : dropEndWhile p t ≠ []) :
    dropEndWhile p (s ++ t) = s ++ dropEndWhile p t := by
  rw [dropEndWhileAppend, if_neg filled]

theorem dropEndWhileSplit : ∃ tail, s = dropEndWhile p s ++ tail ∧ ∀ c ∈ tail, p c = true := by
  induction s with
  | nil => exact ⟨[], rfl, by simp⟩
  | cons c rest ih =>
    obtain ⟨tail, split, all⟩ := ih
    cases h : dropEndWhile p rest with
    | nil =>
      by_cases hc : p c = true
      · exact ⟨c :: rest, by simp [dropEndWhile, h, hc], by simpa [hc] using dropEndWhileNil.mp h⟩
      · exact ⟨rest, by simp [dropEndWhile, h, hc], dropEndWhileNil.mp h⟩
    | cons d kept =>
      refine ⟨tail, ?_, all⟩
      simp only [dropEndWhile, h]
      rw [h] at split
      simpa using split

theorem dropEndWhileLast : ∀ c ∈ (dropEndWhile p s).getLast?, p c = false := by
  induction s with
  | nil => simp [dropEndWhile]
  | cons c rest ih =>
    cases h : dropEndWhile p rest with
    | nil => by_cases hc : p c = true <;> simp [dropEndWhile, h, hc]
    | cons d kept => simpa [dropEndWhile, h, List.getLast?_cons_cons] using ih

theorem dropEndWhileFixed (last : ∀ c ∈ s.getLast?, p c = false) : dropEndWhile p s = s := by
  obtain ⟨tail, split, all⟩ := dropEndWhileSplit (p := p) (s := s)
  rcases List.eq_nil_or_concat tail with rfl | ⟨front, c, rfl⟩
  · simpa using split.symm
  · have kept := last c (by rw [split]; simp)
    have dropped := all c (by simp)
    simp [kept] at dropped

end DropEnd

theorem trimEndEnds (s : List Char) : EndsFilled (trimEnd s) := dropEndWhileLast

theorem trimEndFixed {s : List Char} (ends : EndsFilled s) : trimEnd s = s := dropEndWhileFixed ends

theorem trimEndNil {s : List Char} : trimEnd s = [] ↔ ∀ c ∈ s, isBlank c = true := dropEndWhileNil

theorem trimEndSplit (s : List Char) : ∃ tail, s = trimEnd s ++ tail ∧ ∀ c ∈ tail, isBlank c = true :=
  dropEndWhileSplit

theorem trimEndCons {c : Char} (filled : isBlank c = false) (rest : List Char) :
    trimEnd (c :: rest) = c :: trimEnd rest := by
  unfold trimEnd
  cases h : dropEndWhile isBlank rest <;> simp [dropEndWhile, h, filled]

theorem trimEndMem {s : List Char} {c : Char} (mem : c ∈ trimEnd s) : c ∈ s := by
  obtain ⟨tail, split, _⟩ := trimEndSplit s
  rw [split]
  exact List.mem_append_left _ mem

theorem trimStartFixed {s : List Char} (starts : StartsFilled s) : trimStart s = s := by
  cases s with
  | nil => rfl
  | cons c rest => simp [trimStart, starts c (by simp)]

theorem trimFixed {s : List Char} (starts : StartsFilled s) (ends : EndsFilled s) : trim s = s := by
  rw [trim, trimStartFixed starts, trimEndFixed ends]

theorem trimStarts (s : List Char) : StartsFilled (trim s) := by
  obtain ⟨tail, split, _⟩ := trimEndSplit (trimStart s)
  intro c first
  have found : (trimEnd (trimStart s)).head? = some c := first
  have kept := List.head?_dropWhile_not isBlank s
  have same : (trimStart s).head? = some c := by
    rw [split, List.head?_append, found]
    rfl
  rw [trimStart] at same
  rw [same] at kept
  simpa using kept

theorem LineText.append {s t : List Char} (flat : OneLine s) (h : LineText t) : LineText (s ++ t) := by
  refine ⟨by simp [h.filled], fun c last => ?_, by simpa [OneLine] using ⟨flat, h.flat⟩⟩
  rw [List.getLast?_append, List.getLast?_eq_some_getLast h.filled, Option.some_or] at last
  exact h.ends c (by rw [List.getLast?_eq_some_getLast h.filled]; exact last)

theorem byLines {motive : List Char → Prop} (last : ∀ t, OneLine t → motive t)
    (more : ∀ t rest, OneLine t → motive rest → motive (t ++ '\n' :: rest)) (s : List Char) : motive s := by
  by_cases flat : OneLine s
  · exact last s flat
  · obtain ⟨t, rest, split, front⟩ := List.eq_append_cons_of_mem (Decidable.not_not.mp flat)
    have : rest.length < s.length := by
      rw [split, List.length_append, List.length_cons]
      omega
    rw [split]
    exact more t rest front (byLines last more rest)
termination_by s.length

theorem linesAppend {t : List Char} (rest : List Char) (flat : OneLine t) :
    ∃ t', lines (t ++ '\n' :: rest) = t' :: lines rest ∧ trimEnd t' = trimEnd t := by
  induction t with
  | nil => exact ⟨[], by simp [lines], rfl⟩
  | cons c t ih =>
    have notFeed : c ≠ '\n' := fun same => flat (by simp [same])
    obtain ⟨t', split, same⟩ := ih fun mem => flat (List.mem_cons_of_mem _ mem)
    by_cases lone : c = '\r' ∧ t = []
    · obtain ⟨rfl, rfl⟩ := lone
      exact ⟨[], by simp [lines], by decide⟩
    · refine ⟨c :: t', ?_, ?_⟩
      · rw [List.cons_append, lines.eq_4 _ _ notFeed, split, consFirst]
        intro more isReturn tail
        cases t with
        | nil => exact lone ⟨isReturn, rfl⟩
        | cons d t =>
          simp only [List.cons_append, List.cons.injEq] at tail
          exact flat (by simp [tail.1])
      · simp only [trimEnd, dropEndWhile] at same ⊢
        rw [same]

theorem linesOne {s : List Char} (flat : OneLine s) (filled : s ≠ []) : lines s = [s] := by
  induction s with
  | nil => contradiction
  | cons c rest ih =>
    have notFeed : c ≠ '\n' := fun same => flat (by simp [same])
    have tail : OneLine rest := fun mem => flat (List.mem_cons_of_mem _ mem)
    rw [lines.eq_4 _ _ notFeed fun more _ feed => tail (by simp [feed])]
    by_cases last : rest = []
    · rw [last]
      rfl
    · rw [ih tail last]
      rfl

theorem linesFlat (s : List Char) : ∀ l ∈ lines s, OneLine l := by
  fun_induction lines s with
  | case1 => simp
  | case2 rest ih => simpa [OneLine] using ih
  | case3 rest ih => simpa [OneLine] using ih
  | case4 c rest notFeed _ ih =>
    have head : '\n' ≠ c := fun same => notFeed same.symm
    cases h : lines rest with
    | nil => simpa [consFirst, OneLine] using head
    | cons l ls =>
      simp only [h, List.forall_mem_cons] at ih
      simpa [consFirst, OneLine, head] using ih

theorem linesCut (s : List Char) (n : Nat) : ∃ before behind, s = before ++ behind ∧
    lines before = (lines s).take n ∧ lines behind = (lines s).drop n := by
  fun_induction lines s generalizing n with
  | case1 => exact ⟨[], [], by simp [lines]⟩
  | case2 rest ih =>
    cases n with
    | zero => exact ⟨[], '\n' :: rest, by simp [lines]⟩
    | succ n =>
      obtain ⟨before, behind, rfl, front, back⟩ := ih n
      exact ⟨'\n' :: before, behind, rfl, by rw [lines, front, List.take_succ_cons], by rw [back, List.drop_succ_cons]⟩
  | case3 rest ih =>
    cases n with
    | zero => exact ⟨[], '\r' :: '\n' :: rest, by simp [lines]⟩
    | succ n =>
      obtain ⟨before, behind, rfl, front, back⟩ := ih n
      exact ⟨'\r' :: '\n' :: before, behind, rfl, by rw [lines, front, List.take_succ_cons],
        by rw [back, List.drop_succ_cons]⟩
  | case4 c rest notFeed notPair ih =>
    cases n with
    | zero => exact ⟨[], c :: rest, rfl, rfl, by rw [lines.eq_4 _ _ notFeed notPair, List.drop_zero]⟩
    | succ n =>
      obtain ⟨before, behind, rfl, front, back⟩ := ih (n + 1)
      have single : ∀ more, c = '\r' → before = '\n' :: more → False :=
        fun more isReturn tail => notPair (more ++ behind) isReturn (by rw [tail, List.cons_append])
      refine ⟨c :: before, behind, rfl, ?_, ?_⟩
      · rw [lines.eq_4 _ _ notFeed single, front]
        cases lines (before ++ behind) <;> simp [consFirst]
      · rw [back]
        cases lines (before ++ behind) <;> simp [consFirst]

theorem afterStartAppend (start s : List Char) : afterStart? start (start ++ s) = some s := by
  induction start with
  | nil => rfl
  | cons c start ih => simp [afterStart?, ih]

theorem afterStartSplit {start s after : List Char} (found : afterStart? start s = some after) :
    s = start ++ after := by
  induction start generalizing s with
  | nil => simpa [afterStart?] using found
  | cons c start ih =>
    cases s with
    | nil => contradiction
    | cons d s =>
      rw [afterStart?] at found
      split at found <;> try contradiction
      rename_i same
      rw [same, ih found, List.cons_append]

theorem splitOnceSplit {mark s before after : List Char} (found : splitOnce? mark s = some (before, after)) :
    s = before ++ mark ++ after := by
  induction s generalizing before with
  | nil => contradiction
  | cons c s ih =>
    rw [splitOnce?] at found
    split at found
    · rename_i here
      cases found
      exact afterStartSplit here
    · obtain ⟨p, later, same⟩ := Option.map_eq_some_iff.mp found
      cases same
      rw [ih later, List.cons_append, List.cons_append]

theorem splitOnceAt {c : Char} {mark before after : List Char} (absent : c ∉ before) :
    splitOnce? (c :: mark) (before ++ (c :: mark) ++ after) = some (before, after) := by
  induction before with
  | nil =>
    have found := afterStartAppend (c :: mark) after
    simp only [List.cons_append] at found
    simp [splitOnce?, found]
  | cons d before ih =>
    simp only [List.mem_cons, not_or] at absent
    simp only [List.cons_append, splitOnce?, afterStart?, if_neg absent.1]
    simp only [ih absent.2, Option.map_some]

end Tabular.Text

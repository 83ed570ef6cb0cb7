import Mathlib.Data.List.TakeWhile
import Tabular.Definition.Line
import Tabular.Definition.Reading
import Tabular.Proofs.Text.Lines

/-! Written lines as the reader sees them: whether anything stands on a line, behind how many tabs and with which
first word is told from the line alone. A block of lines that opens at its own depth is read on its own, whatever
stands in front of it, so the reading of a text is put together from its blocks. -/
namespace Tabular.Definition
open Text Unicode

def Line.raw (l : Line) : List Char := List.replicate l.depth '\t' ++ l.text.toList

def Flat (ls : List Line) : Prop := ∀ l ∈ ls, OneLine l.text.toList

def scan (first : Nat) (ls : List Line) : List SourceLine := numberLines first (ls.map Line.raw)

theorem rawFlat {l : Line} (flat : OneLine l.text.toList) : OneLine l.raw := by
  unfold OneLine Line.raw at *
  simp [flat]

theorem sourceLineTrimmed {a b : List Char} (same : trimEnd a = trimEnd b) (n : Nat) :
    sourceLine? n a = sourceLine? n b := by
  simp only [sourceLine?, same]

theorem numberLinesRender {ls : List Line} (flat : Flat ls) (n : Nat) :
    numberLines n (lines (ls.flatMap Line.chars)) = scan n ls := by
  induction ls generalizing n with
  | nil => rfl
  | cons l ls ih =>
    obtain ⟨head, rest⟩ := List.forall_mem_cons.mp flat
    obtain ⟨raw, split, same⟩ := linesAppend (ls.flatMap Line.chars) (rawFlat head)
    have text : (l :: ls).flatMap Line.chars = l.raw ++ '\n' :: ls.flatMap Line.chars := by
      simp [Line.chars, Line.raw]
    rw [text, split]
    simp only [numberLines, scan, List.map_cons, sourceLineTrimmed same, ih rest]

theorem sourceLinesRender {ls : List Line} (flat : Flat ls) :
    sourceLines (render ls).toList = scan 1 ls := by
  rw [render, String.toList_ofList]
  exact numberLinesRender flat 1

theorem numberLinesAppend (n : Nat) (xs ys : List (List Char)) :
    numberLines n (xs ++ ys) = numberLines n xs ++ numberLines (n + xs.length) ys := by
  induction xs generalizing n with
  | nil => rfl
  | cons x xs ih =>
    have shift : n + 1 + xs.length = n + (xs.length + 1) := by omega
    cases h : sourceLine? n x <;> simp [numberLines, h, ih, shift]

theorem scanAppend (n : Nat) (xs ys : List Line) :
    scan n (xs ++ ys) = scan n xs ++ scan (n + xs.length) ys := by
  simp [scan, numberLinesAppend]

theorem sourceLineNone {l : Line} (n : Nat) (blank : trimEnd l.text.toList = []) :
    sourceLine? n l.raw = none := by
  have empty : trimEnd l.raw = [] := by
    rw [trimEndNil] at blank ⊢
    intro c mem
    rcases List.mem_append.mp mem with tab | text
    · rw [List.eq_of_mem_replicate tab]
      decide
    · exact blank c text
  simp [sourceLine?, empty]

theorem tabsReplicate (t : List Char) :
    List.replicate (t.takeWhile isTab).length '\t' = t.takeWhile isTab := by
  refine (List.eq_replicate_iff.mpr ⟨rfl, fun c mem => ?_⟩).symm
  simpa [isTab] using List.mem_takeWhile_imp mem

theorem sourceLineTabs {l : Line} {t : List Char} (n : Nat) (kept : trimEnd l.text.toList = t)
    (filled : t ≠ []) : sourceLine? n l.raw =
      some ⟨n, l.depth + (t.takeWhile isTab).length, t.dropWhile isTab⟩ := by
  have whole : trimEnd l.raw = List.replicate l.depth '\t' ++ t := by
    unfold Line.raw trimEnd at *
    rw [dropEndWhileKept (by rw [kept]; exact filled), kept]
  have tabs : ∀ c ∈ List.replicate l.depth '\t', isTab c = true := by
    intro c mem
    rw [List.eq_of_mem_replicate mem]
    rfl
  have rest : t.dropWhile isTab ≠ [] := by
    intro none
    have all := List.dropWhile_eq_nil_iff.mp none
    have last := trimEndEnds l.text.toList (t.getLast filled)
      (by rw [kept]; exact List.getLast?_eq_some_getLast filled)
    have tab : t.getLast filled = '\t' := by simpa [isTab] using all _ (List.getLast_mem filled)
    rw [tab] at last
    revert last; decide
  unfold sourceLine?
  rw [whole]
  simp only [List.dropWhile_append_of_pos tabs, List.takeWhile_append_of_pos tabs,
    List.length_append, List.length_replicate]

theorem scanMem {n : Nat} {ls : List Line} {s : SourceLine} (member : s ∈ scan n ls) :
    ∃ l ∈ ls, ∃ k, sourceLine? k l.raw = some s := by
  induction ls generalizing n with
  | nil => simp [scan, numberLines] at member
  | cons l ls ih =>
    simp only [scan, List.map_cons, numberLines] at member
    split at member
    · rename_i head found
      rcases List.mem_cons.mp member with rfl | rest
      · exact ⟨l, by simp, n, found⟩
      · obtain ⟨l', mem, k, found⟩ := ih rest
        exact ⟨l', List.mem_cons_of_mem _ mem, k, found⟩
    · obtain ⟨l', mem, k, found⟩ := ih member
      exact ⟨l', List.mem_cons_of_mem _ mem, k, found⟩

theorem sourceLineDepth {l : Line} {k : Nat} {s : SourceLine} (found : sourceLine? k l.raw = some s) :
    l ≠ Line.blank ∧ l.depth ≤ s.depth := by
  by_cases blank : trimEnd l.text.toList = []
  · rw [sourceLineNone k blank] at found
    contradiction
  · rw [sourceLineTabs k rfl blank] at found
    cases Option.some.inj found
    refine ⟨?_, Nat.le_add_right ..⟩
    rintro rfl
    exact blank rfl

theorem scanBlank (n : Nat) (ls : List Line) : scan n (Line.blank :: ls) = scan (n + 1) ls := by
  have none := sourceLineNone (l := Line.blank) n rfl
  simp [scan, numberLines, none]

def Line.Seen (l : Line) : Prop := ∃ c, l.text.toList.head? = some c ∧ isBlank c = false

theorem Line.Seen.scanned {l : Line} (seen : l.Seen) (n : Nat) (ls : List Line) :
    scan n (l :: ls) = ⟨n, l.depth, trimEnd l.text.toList⟩ :: scan (n + 1) ls := by
  obtain ⟨c, first, filled⟩ := seen
  obtain ⟨rest, text⟩ := List.head?_eq_some_iff.mp first
  have kept : trimEnd l.text.toList = c :: trimEnd rest := by rw [text, trimEndCons filled]
  have noTab : isTab c = false := by
    cases tab : isTab c
    · rfl
    · have : c = '\t' := by simpa [isTab] using tab
      subst this
      revert filled; decide
  have found := sourceLineTabs n kept (by simp)
  simp [noTab] at found
  simp [scan, numberLines, found, kept]

def Below (depth : Nat) (ls : List Line) : Prop := ∀ l ∈ ls, l = Line.blank ∨ depth < l.depth

theorem Below.scanned {depth : Nat} {ls : List Line} (below : Below depth ls) (n : Nat) :
    ∀ s ∈ scan n ls, depth < s.depth := by
  intro s member
  obtain ⟨l, mem, k, found⟩ := scanMem member
  have deep := sourceLineDepth found
  exact Nat.lt_of_lt_of_le ((below l mem).resolve_left deep.1) deep.2

theorem takeWhileStop {α : Type} {p : α → Bool} {as bs : List α}
    (stop : ∀ b ∈ bs.head?, p b = false) : (as ++ bs).takeWhile p = as.takeWhile p := by
  induction as with
  | nil =>
    cases bs with
    | nil => rfl
    | cons b bs => simp [stop b rfl]
  | cons a as ih => simp [List.takeWhile_cons, ih]

def Opens (depth : Nat) (ls : List SourceLine) : Prop := ∀ l ∈ ls.head?, l.depth ≤ depth

theorem sectionsAppend {depth : Nat} {as bs : List SourceLine} (opens : Opens depth bs) :
    sections depth (as ++ bs) = sections depth as ++ sections depth bs := by
  induction as with
  | nil => rfl
  | cons a as ih =>
    have body : (as ++ bs).takeWhile (fun x => decide (depth < x.depth)) =
        as.takeWhile fun x => decide (depth < x.depth) :=
      takeWhileStop fun b first => by simpa using opens b first
    simp only [List.cons_append, sections, ih, body]
    split <;> simp

theorem sectionsDeep {depth : Nat} {ls : List SourceLine} (deep : ∀ l ∈ ls, depth < l.depth) :
    sections depth ls = [] := by
  induction ls with
  | nil => rfl
  | cons l ls ih =>
    obtain ⟨head, rest⟩ := List.forall_mem_cons.mp deep
    rw [sections, if_neg (by omega), ih rest]

def objects (depth : Nat) (ls : List SourceLine) : List Section :=
  (sections depth ls).filter fun p => !p.head.isComment

def readLines (ls : List SourceLine) : Except ReadFault (List Item) :=
  (objects 0 ls).mapM readItem

theorem readOk {s : String} {d : Outline} :
    read s = .ok d ↔ ∃ items, readLines (sourceLines s.toList) = .ok items ∧ outline items = d := by
  change (do return outline (← readLines (sourceLines s.toList))) = _ ↔ _
  cases readLines (sourceLines s.toList) with
  | error fault => simp [bind, Except.bind]
  | ok items => simp [bind, Except.bind, pure, Except.pure]

/-- Wherever they start, the lines are read as these items, and they leave any section that stands
open in front of them. -/
structure Reads {α : Type} (depth : Nat) (f : Section → Except ReadFault α) (ls : List Line)
    (items : List α) : Prop where
  flat : Flat ls
  deep : ∀ l ∈ ls, l = Line.blank ∨ depth ≤ l.depth
  opens : ∀ n, Opens depth (scan n ls)
  read : ∀ n, (objects depth (scan n ls)).mapM f = .ok items

section Reads
variable {α : Type} {depth : Nat} {f : Section → Except ReadFault α}

theorem opensAppend {as bs : List SourceLine} (left : Opens depth as) (right : Opens depth bs) :
    Opens depth (as ++ bs) := by
  cases as with
  | nil => exact right
  | cons a as => exact left

theorem Reads.below {ls : List Line} {items : List α} (h : Reads (depth + 1) f ls items) :
    Below depth ls :=
  fun l mem => (h.deep l mem).imp_right Nat.lt_of_succ_le

theorem Reads.parts {ls : List Line} {items : List α} (h : Reads (depth + 1) f ls items) (k n : Nat)
    (text : List Char) : (parts ⟨⟨k, depth, text⟩, scan n ls⟩).mapM f = .ok items := h.read n

theorem Reads.nil : Reads depth f [] [] :=
  ⟨by simp [Flat], by simp, by simp [Opens, scan, numberLines], fun _ => rfl⟩

theorem Reads.append {as bs : List Line} {xs ys : List α} (left : Reads depth f as xs)
    (right : Reads depth f bs ys) : Reads depth f (as ++ bs) (xs ++ ys) := by
  refine ⟨List.forall_mem_append.mpr ⟨left.flat, right.flat⟩,
    List.forall_mem_append.mpr ⟨left.deep, right.deep⟩, fun n => ?_, fun n => ?_⟩
  · rw [scanAppend]
    exact opensAppend (left.opens n) (right.opens _)
  · rw [scanAppend, objects, sectionsAppend (right.opens _), List.filter_append, List.mapM_append,
      ← objects, ← objects, left.read, right.read]
    rfl

theorem Reads.blank {ls : List Line} {items : List α} (h : Reads depth f ls items) :
    Reads depth f (Line.blank :: ls) items := by
  refine ⟨List.forall_mem_cons.mpr ⟨by simp [OneLine, Line.blank], h.flat⟩,
    List.forall_mem_cons.mpr ⟨.inl rfl, h.deep⟩, fun n => ?_, fun n => ?_⟩
  · rw [scanBlank]
    exact h.opens _
  · rw [scanBlank]
    exact h.read _

theorem Reads.flatMap {β : Type} {l : List β} {g : β → List Line} {h : β → List α}
    (each : ∀ x ∈ l, Reads depth f (g x) (h x)) : Reads depth f (l.flatMap g) (l.flatMap h) := by
  induction l with
  | nil => exact .nil
  | cons x l ih =>
    obtain ⟨head, rest⟩ := List.forall_mem_cons.mp each
    exact head.append (ih rest)

theorem Reads.map {β : Type} {l : List β} {g : β → List Line} {h : β → α}
    (each : ∀ x ∈ l, Reads depth f (g x) [h x]) : Reads depth f (l.flatMap g) (l.map h) := by
  rw [List.map_eq_flatMap]
  exact .flatMap each

theorem Reads.singles {β : Type} {l : List β} {g : β → Line} {h : β → α}
    (each : ∀ x ∈ l, Reads depth f [g x] [h x]) : Reads depth f (l.map g) (l.map h) := by
  have split : l.map g = l.flatMap fun x => [g x] := List.map_eq_flatMap
  rw [split]
  exact .map each

theorem Reads.spaced {β : Type} {l : List β} {g : β → List Line} {h : β → α}
    (each : ∀ x ∈ l, Reads depth f (g x) [h x]) : Reads depth f (spaced (l.map g)) (l.map h) := by
  rw [Definition.spaced, List.flatMap_map]
  exact .map fun x mem => (each x mem).blank

theorem commentMarked (source : List Char) : ∃ rest, (commentText source).toList = '/' :: '/' :: '/' :: rest ∧
    (OneLine source → OneLine rest) := by
  unfold commentText
  split
  · exact ⟨[], rfl, fun _ => by simp [OneLine]⟩
  · refine ⟨' ' :: trimEnd source, by simp, fun flat => ?_⟩
    simp only [OneLine, List.mem_cons, not_or]
    exact ⟨by decide, fun feed => flat (trimEndMem feed)⟩

theorem Reads.commentLine {source : List Char} (flat : OneLine source) :
    Reads depth f [⟨depth, commentText source⟩] [] := by
  obtain ⟨rest, text, flatRest⟩ := commentMarked source
  have seen : Line.Seen ⟨depth, commentText source⟩ := ⟨'/', by simp [text], by decide⟩
  have marked : trimEnd (commentText source).toList = '/' :: '/' :: '/' :: trimEnd rest := by
    rw [text, trimEndCons (by decide), trimEndCons (by decide), trimEndCons (by decide)]
  refine ⟨?_, by simp, fun n => ?_, fun n => ?_⟩
  · have := flatRest flat
    simpa [Flat, OneLine, text] using this
  · rw [seen.scanned]
    simp [Opens]
  · rw [seen.scanned]
    simp [objects, sections, scan, numberLines, SourceLine.isComment, marked]
    rfl

theorem Reads.comment (description : Option String) : Reads depth f (comment depth description) [] := by
  cases description with
  | none => exact .nil
  | some d =>
    have none : (lines (trim d.toList)).flatMap (fun _ => ([] : List α)) = [] :=
      List.flatMap_eq_nil_iff.mpr fun _ _ => rfl
    rw [Definition.comment, List.map_eq_flatMap, ← none]
    exact .flatMap fun l mem => .commentLine (linesFlat _ l mem)

theorem Reads.commented {ls : List Line} {items : List α} (description : Option String)
    (h : Reads depth f ls items) : Reads depth f (Definition.comment depth description ++ ls) items :=
  (Reads.comment description).append h

end Reads

def filled (raw : List Char) : Bool := raw.any fun c => !isBlank c

def tabs (raw : List Char) : Nat := (raw.takeWhile isTab).length

def firstWord (raw : List Char) : List Char :=
  (raw.dropWhile isBlank).takeWhile fun c => !isBlank c

def wording (raw : List Char) : List Char := (trimEnd raw).dropWhile isTab

theorem tabBlank {c : Char} (tab : isTab c = true) : isBlank c = true := by
  have : c = '\t' := by simpa [isTab] using tab
  subst this
  decide

theorem filledKept {raw : List Char} : filled raw = true ↔ trimEnd raw ≠ [] := by
  rw [ne_eq, trimEndNil]
  simp [filled]

theorem tabsKept {raw : List Char} (h : filled raw = true) :
    (trimEnd raw).takeWhile isTab = raw.takeWhile isTab ∧ wording raw ≠ [] := by
  have kept := filledKept.mp h
  obtain ⟨tail, split, _⟩ := trimEndSplit raw
  have last := trimEndEnds raw _ (List.getLast?_eq_some_getLast kept)
  have notAll : ¬ ∀ c ∈ trimEnd raw, isTab c = true := fun all => by
    rw [tabBlank (all _ (List.getLast_mem kept))] at last
    contradiction
  refine ⟨?_, fun none => notAll (List.dropWhile_eq_nil_iff.mp none)⟩
  conv => rhs; rw [split]
  rw [List.takeWhile_append, if_neg]
  intro whole
  have same : (trimEnd raw).takeWhile isTab = trimEnd raw :=
    (List.takeWhile_prefix isTab).eq_of_length whole
  exact notAll (List.takeWhile_eq_self_iff.mp same)

theorem keptRaw {raw : List Char} (h : filled raw = true) :
    trimEnd raw = List.replicate (tabs raw) '\t' ++ wording raw := by
  rw [tabs, ← (tabsKept h).1, tabsReplicate]
  exact List.takeWhile_append_dropWhile.symm

theorem sourceLineRaw (n : Nat) (raw : List Char) :
    sourceLine? n raw = if filled raw then some ⟨n, tabs raw, wording raw⟩ else none := by
  split
  · rename_i h
    obtain ⟨same, rest⟩ := tabsKept h
    unfold sourceLine?
    dsimp only
    split
    · exact absurd ‹_› rest
    · rw [same]
      rfl
  · rename_i h
    have empty : trimEnd raw = [] := by simpa using filledKept.not.mp h
    simp [sourceLine?, empty]

end Tabular.Definition

import Mathlib.Data.List.Forall2
import Mathlib.Data.List.TakeWhile
import Tabular.Definition.Line
import Tabular.Proofs.Text.Lines

/-! The normal form of a formula. None of its lines is empty or has blanks at its end, though blanks other than
spaces and tabs may stand at the start of one. Which texts have it can be told from their pieces between line feeds,
and nothing but blanks is lost on the way there. -/
namespace Tabular.Expression
open Text Unicode

theorem indentBlank {c : Char} (h : isIndent c = true) : isBlank c = true := by
  simp only [isIndent, Bool.or_eq_true, decide_eq_true_eq] at h
  rcases h with rfl | rfl <;> decide

theorem filledLinesText {e l : List Char} (member : l ∈ filledLines e) : LineText l := by
  simp only [filledLines, List.mem_filter, List.mem_map] at member
  obtain ⟨⟨raw, source, rfl⟩, filled⟩ := member
  exact ⟨by simpa using filled, trimEndEnds raw, fun feed => linesFlat e raw source (trimEndMem feed)⟩

theorem indentationLt {l : List Char} (h : LineText l) : indentation l < l.length := by
  have last := h.ends (l.getLast h.filled) (by simp [List.getLast?_eq_some_getLast h.filled])
  refine Nat.lt_of_le_of_ne (List.takeWhile_prefix isIndent).length_le fun whole => ?_
  have same : l.takeWhile isIndent = l := (List.takeWhile_prefix isIndent).eq_of_length whole
  have indent : isIndent (l.getLast h.filled) = true := by
    have all := List.all_takeWhile (p := isIndent) (l := l)
    rw [same, List.all_eq_true] at all
    exact all _ (List.getLast_mem h.filled)
  simp [indentBlank indent] at last

theorem dropIndent {l : List Char} {n : Nat} (h : LineText l) (le : n ≤ indentation l) :
    LineText (l.drop n) := by
  have lt := Nat.lt_of_le_of_lt le (indentationLt h)
  refine ⟨fun none => ?_, fun c last => ?_, fun feed => h.flat (List.mem_of_mem_drop feed)⟩
  · have := List.drop_eq_nil_iff.mp none
    omega
  · rw [List.getLast?_drop, if_neg (Nat.not_le.mpr lt)] at last
    exact h.ends c last

theorem commonLe {ls : List (List Char)} {l : List Char} (member : l ∈ ls) :
    commonIndentation ls ≤ indentation l := by
  unfold commonIndentation
  cases h : (ls.map indentation).min? with
  | none => simp
  | some n => exact (List.min?_eq_some_iff.mp h).2 _ (List.mem_map_of_mem member)

theorem normalLinesText {e l : List Char} (member : l ∈ normalLines e) : LineText l := by
  obtain ⟨source, mem, rfl⟩ := List.mem_map.mp member
  exact dropIndent (filledLinesText mem) (commonLe mem)

theorem joinFeed (a b : List Char) (rest : List (List Char)) : '\n' ∈ joinLines (a :: b :: rest) := by
  simp [joinLines]

theorem joinedPieces (ls : List (List Char)) : joinLines ls = ['\n'].intercalate ls := by
  induction ls with
  | nil => rfl
  | cons l ls ih =>
    cases ls with
    | nil => simp [joinLines]
    | cons m ls =>
      rw [joinLines, ih, List.intercalate_cons_cons, List.append_assoc, List.singleton_append]
      exact List.cons_ne_nil m ls

theorem piecesFlat (e : List Char) : ∀ p ∈ e.splitOn '\n', OneLine p := by
  induction e using byLines with
  | last t flat => simpa [List.splitOn_eq_singleton flat] using flat
  | more t rest flat ih =>
    rw [List.splitOn_append_cons_self_of_not_mem flat]
    exact List.forall_mem_cons.mpr ⟨flat, ih⟩

/- Line ends and blank lines leave no trace, so a text may be cut at its line feeds alone. -/
theorem filledSplit (e : List Char) :
    filledLines e = ((e.splitOn '\n').map trimEnd).filter fun line => !line.isEmpty := by
  induction e using byLines with
  | last t flat =>
    rw [filledLines, List.splitOn_eq_singleton flat]
    by_cases empty : t = []
    · rw [empty]
      rfl
    · rw [linesOne flat empty]
  | more t rest flat ih =>
    obtain ⟨line, split, same⟩ := linesAppend rest flat
    rw [filledLines] at ih ⊢
    rw [split, List.splitOn_append_cons_self_of_not_mem flat, List.map_cons, List.map_cons, same,
      List.filter_cons, List.filter_cons, ih]

theorem filledAppend (a b : List Char) : filledLines (a ++ '\n' :: b) = filledLines a ++ filledLines b := by
  rw [filledSplit, filledSplit, filledSplit, List.splitOn_append_cons_self, List.map_append, List.filter_append]

theorem filledJoined {ls : List (List Char)} (text : ∀ l ∈ ls, LineText l) :
    filledLines (joinLines ls) = ls := by
  by_cases empty : ls = []
  · rw [empty]
    rfl
  · have trimmed : ls.map trimEnd = ls := by
      conv => rhs; rw [← List.map_id ls]
      exact List.map_congr_left fun l mem => trimEndFixed (text l mem).ends
    rw [filledSplit, joinedPieces, List.splitOn_intercalate '\n' (fun l mem => (text l mem).flat) empty, trimmed]
    exact List.filter_eq_self.mpr fun l mem => by simpa using (text l mem).filled

def Flush (line : List Char) : Prop := ∀ c ∈ line.head?, isIndent c = false

theorem flushExact {line : List Char} : Flush line ↔ indentation line = 0 := by
  cases line with
  | nil => simp [Flush, indentation]
  | cons c rest =>
    cases h : isIndent c <;> simp [Flush, indentation, h]

theorem indentationDrop {line : List Char} {n : Nat} (le : n ≤ indentation line) :
    indentation (line.drop n) = indentation line - n := by
  have split : line.drop n = (line.takeWhile isIndent).drop n ++ line.dropWhile isIndent := by
    rw [← List.drop_append_of_le_length le, List.takeWhile_append_dropWhile]
  have all : ∀ c ∈ (line.takeWhile isIndent).drop n, isIndent c = true :=
    fun c mem => List.mem_takeWhile_imp (List.mem_of_mem_drop mem)
  have rest : (line.dropWhile isIndent).takeWhile isIndent = [] := by
    cases h : line.dropWhile isIndent with
    | nil => rfl
    | cons c more =>
      have stops := List.head?_dropWhile_not isIndent line
      rw [h] at stops
      exact List.takeWhile_cons_of_neg (by simpa using stops)
  rw [indentation, split, List.takeWhile_append_of_pos all, rest, List.append_nil, List.length_drop, indentation]

theorem commonAttained {ls : List (List Char)} (some : ls ≠ []) :
    ∃ l ∈ ls, indentation l = commonIndentation ls := by
  cases h : (ls.map indentation).min? with
  | none => simp [some] at h
  | some n =>
    obtain ⟨l, mem, same⟩ := List.mem_map.mp (List.min?_mem h)
    exact ⟨l, mem, by rw [same, commonIndentation, h, Option.getD_some]⟩

theorem normalFlush {e : List Char} (some : normalLines e ≠ []) : ∃ l ∈ normalLines e, Flush l := by
  have filled : filledLines e ≠ [] := by simpa [normalLines] using some
  obtain ⟨l, mem, least⟩ := commonAttained filled
  refine ⟨l.drop (commonIndentation (filledLines e)), List.mem_map_of_mem mem, flushExact.mpr ?_⟩
  rw [indentationDrop (Nat.le_of_eq least.symm), least, Nat.sub_self]

theorem normalFixed {ls : List (List Char)} (text : ∀ l ∈ ls, LineText l)
    (flush : ls ≠ [] → ∃ l ∈ ls, Flush l) : normalLines (joinLines ls) = ls := by
  have none : commonIndentation ls = 0 := by
    by_cases empty : ls = []
    · rw [empty]
      rfl
    · obtain ⟨l, mem, starts⟩ := flush empty
      exact Nat.le_zero.mp (flushExact.mp starts ▸ commonLe mem)
  rw [normalLines, filledJoined text]
  simp [none]

theorem normalTwice (e : List Char) : normalChars (normalChars e) = normalChars e := by
  rw [normalChars, normalChars, normalFixed (fun _ => normalLinesText) normalFlush]

/-- Cut at its line feeds, the text has no piece that is blank or ends with a blank, and not every piece is
indented. -/
def Normal (e : List Char) : Prop :=
  e = [] ∨ (∀ p ∈ e.splitOn '\n', (∃ c ∈ p, isBlank c = false) ∧ EndsFilled p) ∧
    ∃ p ∈ e.splitOn '\n', Flush p

theorem fixedNormal {e : List Char} (fixed : normalChars e = e) : Normal e := by
  by_cases empty : normalLines e = []
  · left
    rw [← fixed, normalChars, empty, joinLines]
  · have pieces : e.splitOn '\n' = normalLines e := by
      conv => lhs; rw [← fixed, normalChars, joinedPieces]
      exact List.splitOn_intercalate '\n' (fun l mem => (normalLinesText mem).flat) empty
    right
    rw [pieces]
    refine ⟨fun p mem => ?_, normalFlush empty⟩
    have text := normalLinesText mem
    exact ⟨⟨_, List.getLast_mem text.filled, text.ends _ (List.getLast?_eq_some_getLast text.filled)⟩, text.ends⟩

theorem normalIff {e : List Char} : normalChars e = e ↔ Normal e := by
  refine ⟨fixedNormal, ?_⟩
  rintro (rfl | ⟨pieces, flush⟩)
  · rfl
  · have text : ∀ p ∈ e.splitOn '\n', LineText p := fun p mem => by
      obtain ⟨⟨c, inside, _⟩, ends⟩ := pieces p mem
      exact ⟨List.ne_nil_of_mem inside, ends, piecesFlat e p mem⟩
    have whole : joinLines (e.splitOn '\n') = e := by rw [joinedPieces, List.intercalate_splitOn]
    have fixed := normalFixed text fun _ => flush
    rw [whole] at fixed
    rw [normalChars, fixed, whole]

def inked (s : List Char) : List Char := s.filter fun c => !isBlank c

theorem inkedBlank {s : List Char} (blank : ∀ c ∈ s, isBlank c = true) : inked s = [] :=
  List.filter_eq_nil_iff.mpr fun c mem => by simp [blank c mem]

theorem inkedJoined (ls : List (List Char)) : inked (joinLines ls) = ls.flatMap inked := by
  have feed : isBlank '\n' = true := by decide
  induction ls with
  | nil => rfl
  | cons l ls ih =>
    cases ls with
    | nil => simp [joinLines]
    | cons m ls =>
      rw [List.flatMap_cons, ← ih, joinLines, inked, List.filter_append, List.filter_cons_of_neg (by simp [feed])]
      · rfl
      · exact List.cons_ne_nil m ls

theorem inkedTrimmed (s : List Char) : inked (trimEnd s) = inked s := by
  obtain ⟨tail, split, blank⟩ := trimEndSplit s
  conv => rhs; rw [split, inked, List.filter_append]
  rw [← inked, ← inked, inkedBlank blank, List.append_nil]

theorem inkedFilled (e : List Char) : (filledLines e).flatMap inked = inked e := by
  have pieces (ps : List (List Char)) :
      ((ps.map trimEnd).filter fun line => !line.isEmpty).flatMap inked = ps.flatMap inked := by
    induction ps with
    | nil => rfl
    | cons p ps ih =>
      rw [List.map_cons, List.flatMap_cons, ← ih, ← inkedTrimmed p, List.filter_cons]
      split
      · rw [List.flatMap_cons]
      · rename_i empty
        have none : trimEnd p = [] := by simpa using empty
        rw [none]
        rfl
  rw [filledSplit, pieces, ← inkedJoined, joinedPieces, List.intercalate_splitOn]

theorem leadIndents {line : List Char} {n : Nat} (le : n ≤ indentation line) :
    ∀ c ∈ line.take n, isIndent c = true := by
  have front : line.take n <+: line.takeWhile isIndent :=
    List.prefix_of_prefix_length_le (List.take_prefix n line) (List.takeWhile_prefix isIndent)
      ((List.length_take_le n line).trans le)
  exact fun c mem => List.mem_takeWhile_imp (front.subset mem)

theorem inkedNormal (e : List Char) : inked (normalChars e) = inked e := by
  rw [normalChars, inkedJoined, normalLines, List.flatMap_map, ← inkedFilled e]
  refine List.flatMap_congr fun l mem => ?_
  have blank : ∀ c ∈ l.take (commonIndentation (filledLines e)), isBlank c = true :=
    fun c inside => indentBlank (leadIndents (commonLe mem) c inside)
  conv => rhs; rw [← List.take_append_drop (commonIndentation (filledLines e)) l, inked, List.filter_append]
  rw [← inked, ← inked, inkedBlank blank, List.nil_append]

/-- The line without so many spaces and tabs at its start and without blanks at its end. -/
def Loses (n : Nat) (raw line : List Char) : Prop :=
  ∃ lead tail, raw = lead ++ line ++ tail ∧ lead.length = n ∧ (∀ c ∈ lead, isIndent c = true) ∧
    (∀ c ∈ tail, isBlank c = true) ∧ EndsFilled line

theorem losesIndent {raw : List Char} {n : Nat} (le : n ≤ indentation (trimEnd raw)) :
    Loses n raw ((trimEnd raw).drop n) := by
  obtain ⟨tail, split, blank⟩ := trimEndSplit raw
  refine ⟨(trimEnd raw).take n, tail, by rwa [List.take_append_drop], ?_, leadIndents le, blank, fun c last => ?_⟩
  · rw [List.length_take, Nat.min_eq_left (le.trans (List.takeWhile_prefix isIndent).length_le)]
  · rw [List.getLast?_drop] at last
    split at last <;> try contradiction
    exact trimEndEnds raw c last

theorem normalLoses (e : List Char) : ∃ n, List.Forall₂ (Loses n)
    ((lines e).filter fun raw => !raw.all isBlank) (normalLines e) := by
  have kept : filledLines e = ((lines e).filter fun raw => !raw.all isBlank).map trimEnd := by
    rw [filledLines, List.filter_map]
    congr 1
    refine List.filter_congr fun raw _ => ?_
    have same : trimEnd raw = [] ↔ raw.all isBlank = true := by rw [trimEndNil, List.all_eq_true]
    rw [Bool.eq_iff_iff]
    simp [same]
  refine ⟨commonIndentation (filledLines e), ?_⟩
  rw [normalLines, List.forall₂_map_right_iff]
  conv => arg 3; rw [kept]
  rw [List.forall₂_map_right_iff, List.forall₂_same]
  intro raw mem
  exact losesIndent (commonLe (kept ▸ List.mem_map_of_mem mem))

theorem normalFormExact (e : String) :
    normalize (normalize e) = normalize e ∧
    (normalize e = e ↔ Normal e.toList) ∧
    inked (normalize e).toList = inked e.toList ∧
    ∃ n kept, List.Forall₂ (Loses n) ((lines e.toList).filter fun raw => !raw.all isBlank) kept ∧
      (normalize e).toList = joinLines kept := by
  obtain ⟨n, kept⟩ := normalLoses e.toList
  refine ⟨?_, ?_, ?_, n, _, kept, String.toList_ofList⟩
  · rw [normalize, normalize, String.toList_ofList, normalTwice]
  · rw [← normalIff, ← String.toList_inj, normalize, String.toList_ofList]
  · rw [normalize, String.toList_ofList, inkedNormal]

end Tabular.Expression

import Mathlib.Logic.Relation
import Tabular.Proofs.Expression.NormalForm

/-! The layout of a formula: how far all of it is indented, what stands at the ends of its lines, its blank
lines, and how its lines end. The normal form shows none of this. -/
namespace Tabular.Expression
open Text Unicode

def indentLines (lead e : List Char) : List Char :=
  lead ++ e.flatMap fun c => if c = '\n' then '\n' :: lead else [c]

def AtLineStart (front : List Char) : Prop := ∀ c ∈ front.getLast?, c = '\n'

def AtLineEnd (rest : List Char) : Prop := ∀ c ∈ rest.head?, c = '\n'

structure Gap (gap : List Char) : Prop where
  blank : ∀ c ∈ gap, isBlank c = true
  flat : OneLine gap

inductive Relaid : List Char → List Char → Prop
  | indent {lead : List Char} (spaces : ∀ c ∈ lead, isIndent c = true) (e : List Char) :
      Relaid e (indentLines lead e)
  | lineEnd {gap rest : List Char} (ofGap : Gap gap) (front : List Char) (ends : AtLineEnd rest) :
      Relaid (front ++ rest) (front ++ gap ++ rest)
  | lineAbove {gap front : List Char} (ofGap : Gap gap) (starts : AtLineStart front) (rest : List Char) :
      Relaid (front ++ rest) (front ++ (gap ++ '\n' :: rest))
  | lineBelow {gap rest : List Char} (ofGap : Gap gap) (front : List Char) (ends : AtLineEnd rest) :
      Relaid (front ++ rest) (front ++ '\n' :: gap ++ rest)
  | carriageReturn (front rest : List Char) : Relaid (front ++ '\n' :: rest) (front ++ ['\r'] ++ '\n' :: rest)

theorem Gap.singleton {c : Char} (blank : isBlank c = true) (inside : c ≠ '\n') : Gap [c] :=
  ⟨List.forall_mem_singleton.mpr blank, fun feed => inside (List.mem_singleton.mp feed).symm⟩

theorem filledOne {t : List Char} (flat : OneLine t) :
    filledLines t = if trimEnd t = [] then [] else [trimEnd t] := by
  rw [filledSplit, List.splitOn_eq_singleton flat, List.map_singleton]
  by_cases empty : trimEnd t = [] <;> simp [empty]

theorem filledGap {gap : List Char} (ofGap : Gap gap) : filledLines gap = [] := by
  rw [filledOne ofGap.flat, if_pos (trimEndNil.mpr ofGap.blank)]

theorem filledAtEnd {rest : List Char} (ends : AtLineEnd rest) (front : List Char) :
    filledLines (front ++ rest) = filledLines front ++ filledLines rest := by
  cases rest with
  | nil => simp [filledLines, lines]
  | cons c rest =>
    have feed : c = '\n' := ends c rfl
    have tail := filledAppend [] rest
    rw [List.nil_append] at tail
    rw [feed, filledAppend, tail]
    rfl

theorem filledAtStart {front : List Char} (starts : AtLineStart front) (rest : List Char) :
    filledLines (front ++ rest) = filledLines front ++ filledLines rest := by
  rcases List.eq_nil_or_concat' front with rfl | ⟨above, c, rfl⟩
  · rfl
  · have feed : c = '\n' := starts c (by simp)
    have head := filledAppend above []
    rw [feed, List.append_assoc, List.singleton_append, filledAppend, head]
    simp [filledLines, lines]

theorem filledLineEnd {gap : List Char} (ofGap : Gap gap) (front : List Char) :
    filledLines (front ++ gap) = filledLines front := by
  induction front using byLines with
  | last t flat =>
    have whole : OneLine (t ++ gap) := by
      simpa [OneLine] using ⟨flat, ofGap.flat⟩
    have same : trimEnd (t ++ gap) = trimEnd t := by
      rw [trimEnd, dropEndWhileAppend, if_pos (dropEndWhileNil.mpr ofGap.blank), trimEnd]
    rw [filledOne whole, filledOne flat, same]
  | more t rest _ ih =>
    rw [List.append_assoc, List.cons_append, filledAppend, filledAppend, ih]

theorem indentOne (lead : List Char) {t : List Char} (flat : OneLine t) : indentLines lead t = lead ++ t := by
  induction t with
  | nil => simp [indentLines]
  | cons c t ih =>
    have head : c ≠ '\n' := fun feed => flat (by simp [feed])
    have tail : OneLine t := fun feed => flat (List.mem_cons_of_mem _ feed)
    have rest := List.append_cancel_left (ih tail)
    rw [indentLines, List.flatMap_cons, rest, if_neg head, List.singleton_append]

theorem indentMore (lead : List Char) {t : List Char} (flat : OneLine t) (rest : List Char) :
    indentLines lead (t ++ '\n' :: rest) = lead ++ t ++ '\n' :: indentLines lead rest := by
  have front := indentOne lead flat
  rw [indentLines] at front
  rw [indentLines, List.flatMap_append, ← List.append_assoc, front, List.flatMap_cons, if_pos rfl, indentLines,
    List.cons_append]

theorem filledIndented {lead : List Char} (spaces : ∀ c ∈ lead, isIndent c = true) (e : List Char) :
    filledLines (indentLines lead e) = (filledLines e).map (lead ++ ·) := by
  have blank : trimEnd lead = [] := trimEndNil.mpr fun c mem => indentBlank (spaces c mem)
  have one {t : List Char} (flat : OneLine t) : filledLines (lead ++ t) = (filledLines t).map (lead ++ ·) := by
    have whole : OneLine (lead ++ t) := by
      unfold OneLine
      rw [List.mem_append, not_or]
      exact ⟨fun feed => absurd (spaces _ feed) (by decide), flat⟩
    rw [filledOne whole, filledOne flat, trimEnd, dropEndWhileAppend, ← trimEnd, ← trimEnd, blank]
    split
    · rfl
    · rename_i filled
      rw [if_neg (by simp [filled])]
      rfl
  induction e using byLines with
  | last t flat => rw [indentOne lead flat, one flat]
  | more t rest flat ih => rw [indentMore lead flat, filledAppend, filledAppend, one flat, ih, List.map_append]

theorem indentationLead {lead : List Char} (spaces : ∀ c ∈ lead, isIndent c = true) (line : List Char) :
    indentation (lead ++ line) = lead.length + indentation line := by
  rw [indentation, List.takeWhile_append_of_pos spaces, List.length_append, indentation]

theorem commonIndented {lead : List Char} (spaces : ∀ c ∈ lead, isIndent c = true) {ls : List (List Char)}
    (some : ls ≠ []) : commonIndentation (ls.map (lead ++ ·)) = lead.length + commonIndentation ls := by
  obtain ⟨l, mem, least⟩ := commonAttained some
  have filled : ls.map (lead ++ ·) ≠ [] := by simpa using some
  obtain ⟨_, member, other⟩ := commonAttained filled
  obtain ⟨k, inside, rfl⟩ := List.mem_map.mp member
  have upper := commonLe (List.mem_map_of_mem (f := (lead ++ ·)) mem)
  have lower := commonLe inside
  rw [indentationLead spaces] at other upper
  omega

theorem normalIndented {lead : List Char} (spaces : ∀ c ∈ lead, isIndent c = true) (e : List Char) :
    normalLines (indentLines lead e) = normalLines e := by
  rw [normalLines, normalLines, filledIndented spaces]
  by_cases empty : filledLines e = []
  · rw [empty]
    rfl
  · rw [commonIndented spaces empty, List.map_map]
    exact List.map_congr_left fun l _ => List.drop_length_add_append ..

theorem relaidLines {a b : List Char} (relaid : Relaid a b) : normalLines a = normalLines b := by
  cases relaid with
  | indent spaces => exact (normalIndented spaces a).symm
  | lineEnd ofGap front ends =>
    have same := filledLineEnd ofGap front
    rw [normalLines, normalLines, filledAtEnd ends, filledAtEnd ends, same]
  | lineAbove ofGap starts rest =>
    rw [normalLines, normalLines, filledAtStart starts, filledAtStart starts, filledAppend, filledGap ofGap,
      List.nil_append]
  | lineBelow ofGap front ends =>
    rw [normalLines, normalLines, filledAtEnd ends, filledAtEnd ends, filledAppend, filledGap ofGap,
      List.append_nil]
  | carriageReturn front rest =>
    rw [normalLines, normalLines, filledAppend, filledAppend, filledLineEnd (.singleton (by decide) (by decide))]

theorem layoutUnseen {e f : String} (relaid : Relation.EqvGen Relaid e.toList f.toList) :
    normalize e = normalize f := by
  have same : normalLines e.toList = normalLines f.toList := by
    generalize e.toList = a at relaid
    generalize f.toList = b at relaid
    induction relaid with
    | rel a b change => exact relaidLines change
    | refl a => rfl
    | symm a b _ ih => exact ih.symm
    | trans a b c _ _ first second => exact first.trans second
  rw [normalize, normalize, normalChars, normalChars, same]

def typed : String := "SUM(\n  x\n)"

def pasted : String := " \n\tSUM(\r\n\t  x\u00a0\n\t)"

theorem pastedUnseen : Relation.EqvGen Relaid typed.toList pasted.toList ∧ normalize typed = normalize pasted := by
  have indented : Relaid typed.toList "\tSUM(\n\t  x\n\t)".toList :=
    @Relaid.indent ['\t'] (List.forall_mem_singleton.mpr (by decide)) typed.toList
  have ended : Relaid "\tSUM(\n\t  x\n\t)".toList "\tSUM(\n\t  x\u00a0\n\t)".toList :=
    @Relaid.lineEnd ['\u00a0'] ['\n', '\t', ')'] (.singleton (by decide) (by decide)) "\tSUM(\n\t  x".toList
      (by simp [AtLineEnd])
  have returned : Relaid "\tSUM(\n\t  x\u00a0\n\t)".toList "\tSUM(\r\n\t  x\u00a0\n\t)".toList :=
    .carriageReturn "\tSUM(".toList "\t  x\u00a0\n\t)".toList
  have spaced : Relaid "\tSUM(\r\n\t  x\u00a0\n\t)".toList pasted.toList :=
    @Relaid.lineAbove [' '] [] (.singleton (by decide) (by decide)) (by simp [AtLineStart]) _
  have whole := ((Relation.EqvGen.rel _ _ indented).trans _ _ _ (.rel _ _ ended)).trans _ _ _
    ((Relation.EqvGen.rel _ _ returned).trans _ _ _ (.rel _ _ spaced))
  exact ⟨whole, layoutUnseen whole⟩

end Tabular.Expression

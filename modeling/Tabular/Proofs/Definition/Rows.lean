import Mathlib.Data.List.Basic
import Tabular.Proofs.Definition.Section

/-! Definition text as rows of characters. Two texts are compared row by row: a piece that is optional or
may have several rows is told from what follows it by the characters that all its rows start with. -/
namespace Tabular.Definition
open Text Unicode Name

def rows (ls : List Line) : List (List Char) := ls.map Line.raw

theorem splitFirst {α : Type} {x : α} {as bs cs ds : List α} (left : x ∉ as) (right : x ∉ cs)
    (same : as ++ x :: bs = cs ++ x :: ds) : as = cs ∧ bs = ds := by
  induction as generalizing cs with
  | nil =>
    cases cs with
    | nil => exact ⟨rfl, by simpa using same⟩
    | cons c cs =>
      simp only [List.nil_append, List.cons_append, List.cons.injEq] at same
      exact absurd (by simp [same.1]) right
  | cons a as ih =>
    cases cs with
    | nil =>
      simp only [List.nil_append, List.cons_append, List.cons.injEq] at same
      exact absurd (by simp [same.1]) left
    | cons c cs =>
      simp only [List.mem_cons, not_or] at left right
      simp only [List.cons_append, List.cons.injEq] at same
      obtain ⟨front, back⟩ := ih left.2 right.2 same.2
      exact ⟨by rw [same.1, front], back⟩

theorem mapDetermined {α β γ : Type} {view : α → β} {f : α → γ}
    (determined : ∀ x y, view x = view y → f x = f y) {xs ys : List α}
    (same : xs.map view = ys.map view) : xs.map f = ys.map f := by
  induction xs generalizing ys with
  | nil => rw [List.map_eq_nil_iff.mp same.symm]
  | cons x xs ih =>
    cases ys with
    | nil => simp at same
    | cons y ys =>
      simp only [List.map_cons, List.cons.injEq] at same
      rw [List.map_cons, List.map_cons, determined x y same.1, ih same.2]

theorem renderRows {as bs : List Line} (left : Flat as) (right : Flat bs)
    (same : render as = render bs) : rows as = rows bs := by
  have chars : as.flatMap Line.chars = bs.flatMap Line.chars := by
    have := congrArg String.toList same
    simpa [render] using this
  clear same
  induction as generalizing bs with
  | nil =>
    cases bs with
    | nil => rfl
    | cons b bs => simp [Line.chars] at chars
  | cons a as ih =>
    cases bs with
    | nil => simp [Line.chars] at chars
    | cons b bs =>
      obtain ⟨aFlat, asFlat⟩ := List.forall_mem_cons.mp left
      obtain ⟨bFlat, bsFlat⟩ := List.forall_mem_cons.mp right
      have parts : a.raw ++ '\n' :: as.flatMap Line.chars = b.raw ++ '\n' :: bs.flatMap Line.chars := by
        simpa [Line.chars, Line.raw] using chars
      obtain ⟨head, tail⟩ := splitFirst (rawFlat aFlat) (rawFlat bFlat) parts
      simp only [rows, List.map_cons, head] at ih ⊢
      rw [ih asFlat bsFlat tail]

def Inked (ls : List Line) : Prop := [] ∉ rows ls

theorem rowsAppend (as bs : List Line) : rows (as ++ bs) = rows as ++ rows bs := List.map_append

theorem rowsSpaced (blocks : List (List Line)) :
    rows (spaced blocks) = (blocks.map rows).flatMap ([] :: ·) := by
  simp [rows, spaced, List.map_flatMap, List.flatMap_map, Line.raw, Line.blank]

theorem blocksApart {a b : List Line} {as bs : List (List Line)} (left : ∀ x ∈ a :: as, Inked x)
    (right : ∀ x ∈ b :: bs, Inked x) (same : rows (a ++ spaced as) = rows (b ++ spaced bs)) :
    rows a = rows b ∧ as.map rows = bs.map rows := by
  rw [rowsAppend, rowsAppend, rowsSpaced, rowsSpaced] at same
  induction as generalizing a b bs with
  | nil =>
    cases bs with
    | nil => simpa using same
    | cons c bs =>
      have blank : [] ∈ rows a := by
        rw [List.map_nil, List.flatMap_nil, List.append_nil] at same
        rw [same]
        simp
      exact absurd blank (left a (by simp))
  | cons c as ih =>
    cases bs with
    | nil =>
      have blank : [] ∈ rows b := by
        rw [List.map_nil, List.flatMap_nil, List.append_nil] at same
        rw [← same]
        simp
      exact absurd blank (right b (by simp))
    | cons d bs =>
      obtain ⟨first, lefts⟩ := List.forall_mem_cons.mp left
      obtain ⟨other, rights⟩ := List.forall_mem_cons.mp right
      obtain ⟨head, tail⟩ := splitFirst first other same
      obtain ⟨next, later⟩ := ih lefts rights tail
      exact ⟨head, by rw [List.map_cons, List.map_cons, next, later]⟩

/- A block is laid out by marks: rows that start with the first mark, then rows that start with the
second, and so on. Where no row can start with two of the marks, the rows tell what stands behind each. -/
def mark (depth : Nat) (key : String) : List Char := List.replicate depth '\t' ++ key.toList

def Parted (a b : List Char) : Prop := ¬ a <+: b ∧ ¬ b <+: a
instance (a b) : Decidable (Parted a b) := inferInstanceAs (Decidable (_ ∧ _))

theorem Parted.append {a b : List Char} (parted : Parted a b) (v : List Char) : ¬ a <+: b ++ v :=
  fun starts => by
    have whole : b <+: b ++ v := List.prefix_append b v
    rcases Nat.le_total a.length b.length with short | long
    · exact parted.1 (List.prefix_of_prefix_length_le starts whole short)
    · exact parted.2 (List.prefix_of_prefix_length_le whole starts long)

def laidRows : List (List Char) → List (List (List Char)) → List (List Char)
  | m :: marks, v :: values => v.map (m ++ ·) ++ laidRows marks values
  | _, _ => []

theorem laidMark {marks : List (List Char)} {values : List (List (List Char))} {r : List Char}
    (member : r ∈ laidRows marks values) : ∃ m ∈ marks, ∃ v, r = m ++ v := by
  fun_induction laidRows marks values with
  | case1 m marks v values ih =>
    rcases List.mem_append.mp member with here | later
    · obtain ⟨rest, _, rfl⟩ := List.mem_map.mp here
      exact ⟨m, by simp, rest, rfl⟩
    · obtain ⟨m', mem, rest, split⟩ := ih later
      exact ⟨m', List.mem_cons_of_mem _ mem, rest, split⟩
  | case2 => simp at member

theorem laidInked {ls : List Line} {marks : List (List Char)} {values : List (List (List Char))}
    (laid : rows ls = laidRows marks values) (filled : [] ∉ marks) : Inked ls := by
  intro blank
  rw [laid] at blank
  obtain ⟨m, mem, v, split⟩ := laidMark blank
  rw [(List.append_eq_nil_iff.mp split.symm).1] at mem
  exact filled mem

theorem laidApart {marks : List (List Char)} {vs ws : List (List (List Char))}
    (parted : marks.Pairwise Parted) (left : vs.length = marks.length) (right : ws.length = marks.length)
    (same : laidRows marks vs = laidRows marks ws) : vs = ws := by
  induction marks generalizing vs ws with
  | nil => rw [List.length_eq_zero_iff.mp left, List.length_eq_zero_iff.mp right]
  | cons m marks ih =>
    obtain ⟨v, vs, rfl⟩ := List.exists_cons_of_length_eq_add_one left
    obtain ⟨w, ws, rfl⟩ := List.exists_cons_of_length_eq_add_one right
    obtain ⟨first, rest⟩ := List.pairwise_cons.mp parted
    have marked (x : List (List Char)) : (x.map (m ++ ·)).filter m.isPrefixOf = x.map (m ++ ·) := by
      refine List.filter_eq_self.mpr fun r mem => ?_
      obtain ⟨t, _, rfl⟩ := List.mem_map.mp mem
      simp
    have others (xs : List (List (List Char))) : (laidRows marks xs).filter m.isPrefixOf = [] := by
      refine List.filter_eq_nil_iff.mpr fun r mem => ?_
      obtain ⟨m', isMark, t, rfl⟩ := laidMark mem
      simpa using (first m' isMark).append t
    have front := congrArg (List.filter m.isPrefixOf) same
    simp only [laidRows, List.filter_append, marked, others, List.append_nil] at front
    simp only [laidRows, front, List.append_cancel_left_eq] at same
    have values : v = w := List.map_injective_iff.mpr (fun _ _ equal => List.append_cancel_left equal) front
    rw [values, ih rest (by simpa using left) (by simpa using right) same]

theorem optionalRows (depth : Nat) (key : String) (value : Option String) :
    rows (property? depth key value) =
      (value.toList.map String.toList).map (mark depth (key ++ ": ") ++ ·) := by
  cases value <;> simp [rows, property?, Line.raw, mark]

def flagValue (on : Bool) : List (List Char) := if on then [[]] else []

theorem flagRows (depth : Nat) (key : String) (on : Bool) :
    rows (flag depth key on) = (flagValue on).map (mark depth key ++ ·) := by
  cases on <;> simp [rows, flag, flagValue, Line.raw, mark]

theorem optionalApart {v w : Option String}
    (same : v.toList.map String.toList = w.toList.map String.toList) : v = w := by
  cases v <;> cases w <;> simp_all [String.toList_inj]

theorem flagApart {on off : Bool} (same : flagValue on = flagValue off) : on = off := by
  cases on <;> cases off <;> simp_all [flagValue]

theorem lineRows (depth : Nat) (front rest : String) (ls : List Line) :
    rows (⟨depth, front ++ rest⟩ :: ls) = [rest.toList].map (mark depth front ++ ·) ++ rows ls := by
  simp [rows, Line.raw, mark]

def describedLines : Option String → List (List Char)
  | none => []
  | some d => (lines (trim d.toList)).map trimEnd

def commentRow (line : List Char) : List Char := if line = [] then [] else ' ' :: line

theorem commentRowInjective : Function.Injective commentRow := by
  intro a b same
  unfold commentRow at same
  split at same <;> split at same <;> simp_all

theorem commentTextRow (l : List Char) : (commentText l).toList = "///".toList ++ commentRow (trimEnd l) := by
  have blank : (l.all isBlank = true) ↔ trimEnd l = [] := by
    rw [trimEndNil, List.all_eq_true]
  by_cases empty : trimEnd l = []
  · have text : commentText l = "///" := if_pos (blank.mpr empty)
    simp [text, commentRow, empty]
  · have text : commentText l = "/// " ++ String.ofList (trimEnd l) :=
      if_neg fun all => empty (blank.mp all)
    simp [text, commentRow, empty]

theorem commentRows (depth : Nat) (d : Option String) :
    rows (comment depth d) = ((describedLines d).map commentRow).map (mark depth "///" ++ ·) := by
  cases d with
  | none => rfl
  | some d =>
    simp only [rows, comment, describedLines, List.map_map]
    refine List.map_congr_left fun l _ => ?_
    simp [Line.raw, commentTextRow, mark]

theorem commentApart {d e : Option String}
    (same : (describedLines d).map commentRow = (describedLines e).map commentRow) :
    describedLines d = describedLines e :=
  List.map_injective_iff.mpr commentRowInjective same

def bodyRests (e : String) : List (List Char) :=
  match Expression.normalLines e.toList with
  | [_] => []
  | body => body

theorem formulaRows (depth : Nat) (front name e : String) :
    rows (formula depth (front ++ quote name) e) =
      [encode name.toList ++ formulaTail e].map (mark depth front ++ ·)
        ++ (bodyRests e).map (mark (depth + 2) "" ++ ·) := by
  have body : rows (formulaBody depth e) = (bodyRests e).map (mark (depth + 2) "" ++ ·) := by
    unfold formulaBody bodyRests
    cases Expression.normalLines e.toList with
    | nil => rfl
    | cons l ls =>
      cases ls with
      | nil => rfl
      | cons k ls => simp [rows, Line.raw, mark]
  rw [formulaLines, ← body]
  simp [rows, Line.raw, mark, quote]

theorem formulaApart {x y e f : String}
    (head : encode x.toList ++ formulaTail e = encode y.toList ++ formulaTail f)
    (body : bodyRests e = bodyRests f) : x = y ∧ Expression.normalize e = Expression.normalize f := by
  have stops (g : String) : Stops (formulaTail g) := by
    unfold formulaTail
    split <;> exact stopsSpace _
  have taken := congrArg take? head
  rw [takeEncode _ (stops e), takeEncode _ (stops f)] at taken
  obtain ⟨name, tail⟩ := Prod.mk.inj (Option.some.inj taken)
  have joined : Expression.normalLines e.toList = Expression.normalLines f.toList := by
    unfold formulaTail at tail
    unfold bodyRests at body
    split at tail <;> split at tail
    · simp_all
    · simp at tail
    · simp at tail
    · simpa using body
  refine ⟨String.toList_inj.mp name, ?_⟩
  rw [Expression.normalize, Expression.normalize, Expression.normalChars, Expression.normalChars, joined]

theorem quoteInjective {a b : String} (same : encode a.toList = encode b.toList) : a = b :=
  String.toList_inj.mp (encodeInjective same)

end Tabular.Definition

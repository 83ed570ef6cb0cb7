import Tabular.Unicode.Width

/-! Widths of texts and of the spaces around them. A space takes one column and cuts off what stands to its right, so
spaces in front of a text or behind it add as many columns as there are. A character may take away a column, but only
one that the text behind it has brought in, so no text is narrower than nothing. -/
namespace Tabular.Unicode

def widen (c : Char) (seen : Int × Context) : Int × Context :=
  (seen.1 + (widthBefore seen.2 c).1, (widthBefore seen.2 c).2)

theorem measureCons (c : Char) (s : List Char) : measure (c :: s) = widen c (measure s) := rfl

def owed : Following → Int
  | .coengLetter => 1
  | .joinerAndTifinagh => 1
  | .joinedRegional => 1
  | _ => 0

theorem owedPositive (next : Following) : 0 ≤ owed next := by
  unfold owed
  split <;> decide

theorem owedJoin (next : Following) : owed next.join = owed next := by
  cases next <;> rfl

def Pays (credit : Int) (r : Int × Following) : Prop := owed r.2 ≤ credit + r.1

theorem Pays.choice {credit : Int} {x y : Int × Following} {c : Prop} [Decidable c] (yes : Pays credit x)
    (no : Pays credit y) : Pays credit (if c then x else y) := by
  split
  · exact yes
  · exact no

theorem Pays.more {credit more : Int} {x : Int × Following} (pays : Pays credit x) (le : credit ≤ more) :
    Pays more x := by
  unfold Pays at *
  omega

theorem singlePays (c : Char) : Pays 0 (single c) := by
  unfold single
  dsimp only
  repeat' apply Pays.choice
  all_goals simp [Pays, owed]

theorem joinedPays (next : Following) (c : Char) : Pays (owed next) (joinedTo next c) := by
  have alone : Pays (owed next) (single c) := (singlePays c).more (owedPositive next)
  unfold joinedTo
  dsimp only
  split
  all_goals repeat' first | exact alone | apply Pays.choice
  all_goals simp [Pays, owed]

theorem widthPays (ctx : Context) (c : Char) :
    Pays (owed ctx.next) ((widthBefore ctx c).1, (widthBefore ctx c).2.next) := by
  have positive := owedPositive ctx.next
  have free {x : Int} {next : Following} (wide : owed next ≤ x) : Pays (owed ctx.next) (x, next) := by
    simp only [Pays]
    omega
  unfold widthBefore
  dsimp only
  split
  · exact free (by split <;> decide)
  split
  · exact free (by decide)
  split
  · exact free (by decide)
  -- the selector may have left less of what stands to the right, never more
  have kept : owed (if (decide (ctx.selector = .none) || ctx.next.isLigature) = true then ctx.next else .plain) ≤
      owed ctx.next := by
    split
    · exact Int.le_refl _
    · exact positive
  generalize (if (decide (ctx.selector = .none) || ctx.next.isLigature) = true then ctx.next else .plain) = next
    at kept ⊢
  have same {rest : Following} (less : owed rest ≤ owed next) : Pays (owed ctx.next) (0, rest) := by
    simp only [Pays]
    omega
  have nothing : owed .plain ≤ owed next := owedPositive next
  split
  · split
    · exact same (Int.le_refl _)
    · exact same nothing
  split
  · split
    · exact same (Int.le_refl _)
    · exact same nothing
  split
  · exact same (Int.le_of_eq (owedJoin next))
  split
  · exact same (Int.le_refl _)
  · exact (joinedPays next c).more kept

theorem measureOwed (s : List Char) : owed (measure s).2.next ≤ (measure s).1 := by
  induction s with
  | nil => decide
  | cons c s ih =>
    have step := widthPays (measure s).2 c
    unfold Pays at step
    rw [measureCons]
    simp only [widen] at step ⊢
    omega

theorem measurePositive (s : List Char) : 0 ≤ (measure s).1 :=
  Int.le_trans (owedPositive _) (measureOwed s)

theorem joinedSpace (next : Following) : joinedTo next ' ' = (1, .plain) := by
  cases next with
  | lamed joined | ya joined | tifinagh joined | orkhonI joined => cases joined <;> decide
  | _ => decide

theorem spaceWidth (ctx : Context) : widthBefore ctx ' ' = (1, .plain) := by
  have emoji : inRanges emojiStyleRanges ' ' = false := by decide
  have text : inRanges textStyleRanges ' ' = false := by decide
  have ignorable : isIgnorable ' ' = false := by decide
  simp [widthBefore, emoji, text, ignorable, joinedSpace, Context.plain]

theorem measureSpaces (s : List Char) (n : Nat) :
    measure (s ++ List.replicate n ' ') = ((measure s).1 + n, (measure s).2) := by
  induction s with
  | nil =>
    induction n with
    | zero => rfl
    | succ n ih =>
      simp only [List.nil_append] at ih ⊢
      rw [List.replicate_succ, measureCons, ih, widen]
      simp [spaceWidth, measure]
  | cons c s ih =>
    rw [List.cons_append, measureCons, measureCons, ih, widen, widen]
    simp only [Int.add_right_comm]

theorem columnsBehind (s : List Char) (n : Nat) : columns (s ++ List.replicate n ' ') = columns s + n := by
  have positive := measurePositive s
  rw [columns, columns, measureSpaces]
  omega

theorem columnsInFront (n : Nat) (s : List Char) : columns (List.replicate n ' ' ++ s) = n + columns s := by
  have shifted : (measure (List.replicate n ' ' ++ s)).1 = n + (measure s).1 := by
    induction n with
    | zero => simp
    | succ n ih =>
      rw [List.replicate_succ, List.cons_append, measureCons, widen, ih, spaceWidth]
      omega
  have positive := measurePositive s
  rw [columns, columns, shifted]
  omega

end Tabular.Unicode

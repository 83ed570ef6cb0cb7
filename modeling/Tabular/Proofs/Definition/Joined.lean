import Tabular.Proofs.Definition.Numbering
import Tabular.Proofs.Definition.Order
import Tabular.Proofs.Definition.Scan

/-! Two texts, one behind the other. If the second one opens at the margin, its first line ends whatever the first
text left open, so each is read on its own. Only the line numbers of the second change, and those are seen in
faults alone. -/
namespace Tabular.Definition
open Text

def OpensFlush (s : String) : Prop :=
  ∀ raw ∈ ((lines s.toList).filter filled).head?, raw.head? ≠ some '\t'
instance (s) : Decidable (OpensFlush s) := by unfold OpensFlush; infer_instance

def Outline.joined (d e : Outline) : Outline where
  tables := (d.tables ++ e.tables).mergeSort (inRefOrder (·.name) (d.tableRefs ++ e.tableRefs))
  measures := d.measures ++ e.measures
  relationships := d.relationships ++ e.relationships
  hierarchies := d.hierarchies ++ e.hierarchies
  roles := (d.roles ++ e.roles).mergeSort (inRefOrder (·.name) (d.roleRefs ++ e.roleRefs))
  tableRefs := d.tableRefs ++ e.tableRefs
  roleRefs := d.roleRefs ++ e.roleRefs

theorem numberLinesJoined (a b : List Char) (n : Nat) : ∃ k, numberLines n (lines (a ++ '\n' :: b)) =
    numberLines n (lines a) ++ numberLines (n + k) (lines b) := by
  induction a using byLines generalizing n with
  | last a flat =>
    obtain ⟨raw, split, same⟩ := linesAppend b flat
    refine ⟨1, ?_⟩
    rw [split, numberLines, sourceLineTrimmed same]
    by_cases empty : a = []
    · rw [empty]
      rfl
    · rw [linesOne flat empty, numberLines]
      cases sourceLine? n a <;> rfl
  | more first rest flat ih =>
    obtain ⟨k, later⟩ := ih (n + 1)
    obtain ⟨raw, split, same⟩ := linesAppend rest flat
    obtain ⟨raw', split', same'⟩ := linesAppend (rest ++ '\n' :: b) flat
    refine ⟨1 + k, ?_⟩
    rw [List.append_assoc, List.cons_append, split, split', numberLines, numberLines,
      sourceLineTrimmed same, sourceLineTrimmed same', later, Nat.add_assoc]
    cases sourceLine? n first <;> rfl

theorem flushOpens {raws : List (List Char)}
    (flush : ∀ raw ∈ (raws.filter filled).head?, raw.head? ≠ some '\t') (n : Nat) :
    Opens 0 (numberLines n raws) := by
  induction raws generalizing n with
  | nil => simp [numberLines, Opens]
  | cons raw raws ih =>
    rw [numberLines, sourceLineRaw]
    by_cases h : filled raw = true
    · rw [List.filter_cons_of_pos h] at flush
      have noTab := flush raw rfl
      simp only [h, if_true, Opens, List.head?_cons, Option.mem_some_iff, forall_eq']
      cases raw with
      | nil => exact Nat.le_refl 0
      | cons c raw =>
        have margin : isTab c = false := by simpa [isTab] using noTab
        simp [tabs, margin]
    · rw [List.filter_cons_of_neg h] at flush
      simp only [h]
      exact ih flush (n + 1)

theorem readLinesAppend {as bs : List SourceLine} {xs ys : List Item} (first : readLines as = .ok xs)
    (second : readLines bs = .ok ys) (opens : Opens 0 bs) : readLines (as ++ bs) = .ok (xs ++ ys) := by
  rw [readLines, objects, sectionsAppend opens, List.filter_append, List.mapM_append, ← objects, ← objects,
    ← readLines, ← readLines, first, second]
  rfl

theorem outlineAppend (xs ys : List Item) : outline (xs ++ ys) = (outline xs).joined (outline ys) := by
  simp only [outline, Outline.joined, tableRefs, roleRefs, List.filterMap_append, ← sortByRefsStable, sortedTwice]

theorem readJoined {a b : String} {d e : Outline} (first : read a = .ok d) (second : read b = .ok e)
    (flush : OpensFlush b) : read (a ++ "\n" ++ b) = .ok (d.joined e) := by
  obtain ⟨xs, readA, rfl⟩ := readOk.mp first
  obtain ⟨ys, readB, rfl⟩ := readOk.mp second
  obtain ⟨k, whole⟩ := numberLinesJoined a.toList b.toList 1
  have text : (a ++ "\n" ++ b).toList = a.toList ++ '\n' :: b.toList := by simp
  have shifted := numberLinesShift 1 k (lines b.toList)
  have later : readLines (numberLines (1 + k) (lines b.toList)) = .ok ys := by
    rw [shifted, readLinesRenumbered]
    exact mapErrorOk _ readB
  refine readOk.mpr ⟨xs ++ ys, ?_, outlineAppend xs ys⟩
  rw [sourceLines, text, whole]
  exact readLinesAppend readA later (flushOpens flush _)

def ledger : String :=
  "ref table Dates\ntable Sales\n\tcolumn Day\n\t\tdataType: int64\n\tmeasure Total =\n\t\t\tSUM("

def calendar : String := "\n \t\n/// days\ntable Dates\n\t\tcolumn Day\n\nref table Sales\nmeasure Rate = 1"

def ledgerOutline : Outline where
  tables := [{ name := "Sales", columns := [⟨"Day", some .integer⟩], measures := [⟨"Total", "SUM("⟩] }]
  tableRefs := ["Dates"]

def calendarOutline : Outline where
  tables := [{ name := "Dates" }]
  measures := [⟨"Rate", "1"⟩]
  tableRefs := ["Sales"]

theorem ledgerCalendarJoined : read ledger = .ok ledgerOutline ∧ read calendar = .ok calendarOutline ∧
    OpensFlush calendar ∧
    read (ledger ++ "\n" ++ calendar) = .ok (ledgerOutline.joined calendarOutline) := by
  have first : read ledger = .ok ledgerOutline := by decide
  have second : read calendar = .ok calendarOutline := by decide
  have flush : OpensFlush calendar := by decide
  exact ⟨first, second, flush, readJoined first second flush⟩

example : (ledgerOutline.joined calendarOutline).tables.map (·.name) = ["Dates", "Sales"] := by cbv

end Tabular.Definition

import Tabular.Definition.Summary
import Tabular.Proofs.Definition.NameLine
import Tabular.Proofs.Text.Numbered
import Tabular.Proofs.Unicode.Width

/-! The table of contents. Each object that was read has one line in it and no line is about anything else, as no name
goes on behind the end of its line. The data types of one table stand below each other on the display, and so do
the arrows of all relationships. -/
namespace Tabular.Definition
open Text Vocabulary

def spaces (n : Nat) : String := String.ofList (List.replicate n ' ')

/-- What is asked of a display: spaces take a column each, behind a text and in front of it. -/
structure Pads (width : String → Nat) : Prop where
  behind : ∀ s n, width (s ++ spaces n) = width s + n
  inFront : ∀ s, width ("  " ++ s) = 2 + width s

section Display
variable {width : String → Nat}

theorem widestBound {texts : List String} {s : String} (mem : s ∈ texts) : width s ≤ widest width texts := by
  have inside : width s ∈ texts.map width := List.mem_map_of_mem mem
  unfold widest
  cases found : (texts.map width).max? with
  | none => simp [List.max?_eq_none_iff.mp found] at inside
  | some _ => exact (List.max?_eq_some_iff.mp found).2 _ inside

theorem padFits (pads : Pads width) {s : String} {columns : Nat} (fits : width s ≤ columns) :
    ∃ n, pad width s columns = s ++ spaces n ∧ width (pad width s columns) = columns := by
  have fill : pad width s columns = s ++ spaces (columns - width s) := rfl
  refine ⟨_, fill, ?_⟩
  rw [fill, pads.behind]
  omega

end Display

inductive Entry where
  | table (t : TableOutline)
  | column (t : TableOutline) (c : ColumnOutline)
  | calculatedColumn (x : Formula)
  | tableMeasure (x : Formula)
  | measure (x : Formula)
  | relationship (r : RelationshipOutline)
  | role (r : RoleOutline)

def TableOutline.entries (t : TableOutline) : List Entry :=
  .table t :: (t.columns.map (.column t) ++ t.calculatedColumns.map .calculatedColumn ++ t.measures.map .tableMeasure)

def Outline.entries (d : Outline) : List Entry :=
  d.tables.flatMap TableOutline.entries ++ d.measures.map .measure ++ d.relationships.map .relationship
    ++ d.roles.map .role

section Lines
variable (width : String → Nat)

def TableOutline.columnWidth (t : TableOutline) : Nat := widest width (t.columns.map (·.name))

def Outline.sourceWidth (d : Outline) : Nat :=
  widest width (d.relationships.map fun r => endpointText r.fromTable r.fromColumn)

structure StartsAt (columns : Nat) (front rest line : String) : Prop where
  whole : line = front ++ rest
  columns : width front = columns

inductive Shows (d : Outline) : Entry → String → Prop
  | table {t} : Shows d (.table t) ("table " ++ t.name ++ " (" ++ labelOr t.mode ++ ")")
  | column {t c n line}
      (aligned : StartsAt width (4 + t.columnWidth width) ("  " ++ c.name ++ spaces n ++ "  ") (labelOr c.dataType)
        line) :
      Shows d (.column t c) line
  | calculatedColumn {x} : Shows d (.calculatedColumn x) ("  " ++ x.name ++ "  (calculated)")
  | tableMeasure {x} : Shows d (.tableMeasure x) ("  measure " ++ x.name)
  | measure {x} : Shows d (.measure x) ("measure " ++ x.name)
  | relationship {r n line}
      (aligned : StartsAt width (d.sourceWidth width + 1) (endpointText r.fromTable r.fromColumn ++ spaces n ++ " ")
        ("-> " ++ endpointText r.toTable r.toColumn ++ "  " ++ label r.cardinality ++ " " ++ label r.crossFilter ++
          if r.isActive then "" else " (inactive)") line) :
      Shows d (.relationship r) line
  | role {r} : Shows d (.role r) ("role " ++ r.name ++ " (" ++ toString r.permissions.length ++ " filters, " ++
      toString r.members.length ++ " members)")

def Entry.line (d : Outline) : Entry → String
  | .table t => "table " ++ t.name ++ " (" ++ labelOr t.mode ++ ")"
  | .column t c => "  " ++ pad width c.name (t.columnWidth width) ++ "  " ++ labelOr c.dataType
  | .calculatedColumn x => "  " ++ x.name ++ "  (calculated)"
  | .tableMeasure x => "  measure " ++ x.name
  | .measure x => "measure " ++ x.name
  | .relationship r => relationshipSummary width (d.sourceWidth width) r
  | .role r => roleSummary r

theorem linesOfEntries (d : Outline) : summaryLines width d = d.entries.map (Entry.line width d) := by
  have table (t : TableOutline) : tableSummary width t = t.entries.map (Entry.line width d) := by
    simp [tableSummary, TableOutline.entries, TableOutline.columnWidth, Entry.line, Function.comp_def]
  have tables : d.tables.flatMap (tableSummary width) =
      d.tables.flatMap fun t => t.entries.map (Entry.line width d) :=
    List.flatMap_congr fun t _ => table t
  simp [summaryLines, Outline.entries, Outline.sourceWidth, tables, Entry.line, List.map_flatMap, Function.comp_def]

end Lines

def Entry.In (d : Outline) : Entry → Prop
  | .table t => t ∈ d.tables
  | .column t c => t ∈ d.tables ∧ c ∈ t.columns
  | .calculatedColumn x => ∃ t ∈ d.tables, x ∈ t.calculatedColumns
  | .tableMeasure x => ∃ t ∈ d.tables, x ∈ t.measures
  | .measure x => x ∈ d.measures
  | .relationship r => r ∈ d.relationships
  | .role r => r ∈ d.roles

theorem entryIn {d : Outline} {e : Entry} : e ∈ d.entries ↔ e.In d := by
  cases e <;> simp [Outline.entries, TableOutline.entries, Entry.In]

section Display
variable {width : String → Nat}

theorem columnFits {t : TableOutline} {c : ColumnOutline} (mem : c ∈ t.columns) :
    width c.name ≤ t.columnWidth width :=
  widestBound (List.mem_map_of_mem mem)

theorem sourceFits {d : Outline} {r : RelationshipOutline} (mem : r ∈ d.relationships) :
    width (endpointText r.fromTable r.fromColumn) ≤ d.sourceWidth width :=
  widestBound (List.mem_map.mpr ⟨r, mem, rfl⟩)

theorem entryShows (pads : Pads width) {d : Outline} {e : Entry} (known : e.In d) :
    Shows width d e (e.line width d) := by
  cases e with
  | column t c =>
    obtain ⟨n, fill, fits⟩ := padFits pads (columnFits known.2)
    have front : width ("  " ++ pad width c.name (t.columnWidth width) ++ "  ") = 4 + t.columnWidth width := by
      calc width ("  " ++ pad width c.name (t.columnWidth width) ++ spaces 2)
        _ = 2 + width (pad width c.name (t.columnWidth width)) + 2 := by rw [pads.behind, pads.inFront]
        _ = 4 + t.columnWidth width := by omega
    have same : "  " ++ pad width c.name (t.columnWidth width) ++ "  " = "  " ++ c.name ++ spaces n ++ "  " := by
      rw [fill, ← String.append_assoc]
    exact .column ⟨by rw [Entry.line, same], same ▸ front⟩
  | relationship r =>
    obtain ⟨n, fill, fits⟩ := padFits pads (sourceFits known)
    have front : width (pad width (endpointText r.fromTable r.fromColumn) (d.sourceWidth width) ++ " ") =
        d.sourceWidth width + 1 := by
      calc width (pad width (endpointText r.fromTable r.fromColumn) (d.sourceWidth width) ++ spaces 1)
        _ = width (pad width (endpointText r.fromTable r.fromColumn) (d.sourceWidth width)) + 1 := pads.behind _ 1
        _ = d.sourceWidth width + 1 := by rw [fits]
    have arrow (rest : String) : " -> " ++ rest = " " ++ ("-> " ++ rest) := by
      rw [← String.append_assoc]
      rfl
    refine .relationship ⟨?_, fill ▸ front⟩
    simp only [Entry.line, relationshipSummary, fill, arrow, String.append_assoc]
  | _ => constructor

end Display

def Entry.shown : Entry → List String
  | .table t => [t.name]
  | .column _ c => [c.name]
  | .calculatedColumn x => [x.name]
  | .tableMeasure x => [x.name]
  | .measure x => [x.name]
  | .relationship r => r.shown
  | .role r => [r.name]

theorem tableShown {d : Outline} {t : TableOutline} (known : t ∈ d.tables) : t.shown ⊆ d.shown := by
  intro name mem
  have inside : name ∈ d.tables.flatMap (·.shown) := List.mem_flatMap.mpr ⟨t, known, mem⟩
  simp only [Outline.shown, List.mem_append]
  exact .inl (.inl (.inl inside))

theorem entryShown {d : Outline} {e : Entry} (known : e.In d) : e.shown ⊆ d.shown := by
  intro name mem
  cases e with
  | table t =>
    cases List.mem_singleton.mp mem
    exact tableShown known List.mem_cons_self
  | column t c =>
    cases List.mem_singleton.mp mem
    have inside : c.name ∈ t.columns.map (·.name) := List.mem_map_of_mem known.2
    refine tableShown known.1 (List.mem_cons_of_mem _ ?_)
    exact List.mem_append_left _ (List.mem_append_left _ inside)
  | calculatedColumn x =>
    cases List.mem_singleton.mp mem
    obtain ⟨t, table, column⟩ := known
    have inside : x.name ∈ t.calculatedColumns.map (·.name) := List.mem_map_of_mem column
    refine tableShown table (List.mem_cons_of_mem _ ?_)
    exact List.mem_append_left _ (List.mem_append_right _ inside)
  | tableMeasure x =>
    cases List.mem_singleton.mp mem
    obtain ⟨t, table, measure⟩ := known
    have inside : x.name ∈ t.measures.map (·.name) := List.mem_map_of_mem measure
    exact tableShown table (List.mem_cons_of_mem _ (List.mem_append_right _ inside))
  | measure x =>
    cases List.mem_singleton.mp mem
    have inside : x.name ∈ d.measures.map (·.name) := List.mem_map_of_mem known
    simp only [Outline.shown, List.mem_append]
    exact .inl (.inl (.inr inside))
  | relationship r =>
    have inside : name ∈ d.relationships.flatMap (·.shown) := List.mem_flatMap.mpr ⟨r, known, mem⟩
    simp only [Outline.shown, List.mem_append]
    exact .inl (.inr inside)
  | role r =>
    cases List.mem_singleton.mp mem
    have inside : r.name ∈ d.roles.map (·.name) := List.mem_map_of_mem known
    simp only [Outline.shown, List.mem_append]
    exact .inr inside

theorem flatAppend {a b : String} : OneLine (a ++ b).toList ↔ OneLine a.toList ∧ OneLine b.toList := by
  simp [OneLine]

theorem flatPad {a : String} (flat : OneLine a.toList) (width : String → Nat) (columns : Nat) :
    OneLine (pad width a columns).toList := by
  rw [pad, flatAppend, String.toList_ofList]
  exact ⟨flat, fun feed => absurd (List.eq_of_mem_replicate feed) (by decide)⟩

theorem flatNumber (n : Nat) : OneLine (toString n).toList := by
  rw [Nat.toString_eq_ofList_toDigits, String.toList_ofList]
  exact (Solid.line (Text.decimalSolid n)).flat

theorem flatLabel {α : Type} [Vocabulary α] (each : ∀ v : α, OneLine (label v).toList) (v : Option α) :
    OneLine (labelOr v).toList := by
  cases v with
  | none => exact (by decide : OneLine "?".toList)
  | some v => exact each v

theorem flatMode (v : TableMode) : OneLine (label v).toList := by cases v <;> decide
theorem flatType (v : DataType) : OneLine (label v).toList := by cases v <;> decide
theorem flatCardinality (v : Cardinality) : OneLine (label v).toList := by cases v <;> decide
theorem flatFilter (v : CrossFilter) : OneLine (label v).toList := by cases v <;> decide

theorem flatEndpoint {table column : String} (left : OneLine table.toList) (right : OneLine column.toList) :
    OneLine (endpointText table column).toList := by
  simp only [endpointText, flatAppend]
  exact ⟨⟨⟨left, by decide⟩, right⟩, by decide⟩

theorem flatLine {d : Outline} {e : Entry} (flat : ∀ name ∈ e.shown, OneLine name.toList) (width : String → Nat) :
    OneLine (e.line width d).toList := by
  cases e with
  | table t =>
    have name : OneLine t.name.toList := flat _ (by simp [Entry.shown])
    simp only [Entry.line, flatAppend]
    exact ⟨⟨⟨⟨by decide, name⟩, by decide⟩, flatLabel flatMode _⟩, by decide⟩
  | column t c =>
    have name : OneLine c.name.toList := flat _ (by simp [Entry.shown])
    simp only [Entry.line, flatAppend]
    exact ⟨⟨⟨by decide, flatPad name _ _⟩, by decide⟩, flatLabel flatType _⟩
  | calculatedColumn x =>
    have name : OneLine x.name.toList := flat _ (by simp [Entry.shown])
    simp only [Entry.line, flatAppend]
    exact ⟨⟨by decide, name⟩, by decide⟩
  | tableMeasure x =>
    have name : OneLine x.name.toList := flat _ (by simp [Entry.shown])
    simp only [Entry.line, flatAppend]
    exact ⟨by decide, name⟩
  | measure x =>
    have name : OneLine x.name.toList := flat _ (by simp [Entry.shown])
    simp only [Entry.line, flatAppend]
    exact ⟨by decide, name⟩
  | relationship r =>
    simp only [Entry.shown, RelationshipOutline.shown, List.forall_mem_cons] at flat
    obtain ⟨fromTable, fromColumn, toTable, toColumn, _⟩ := flat
    have source := flatPad (flatEndpoint fromTable fromColumn) width (d.sourceWidth width)
    have target := flatEndpoint toTable toColumn
    have inactive : OneLine (if r.isActive then "" else " (inactive)").toList := by split <;> decide
    simp only [Entry.line, relationshipSummary, flatAppend]
    exact ⟨⟨⟨⟨⟨⟨⟨source, by decide⟩, target⟩, by decide⟩, flatCardinality _⟩, by decide⟩, flatFilter _⟩, inactive⟩
  | role r =>
    have name : OneLine r.name.toList := flat _ (by simp [Entry.shown])
    simp only [Entry.line, roleSummary, flatAppend]
    exact ⟨⟨⟨⟨⟨⟨by decide, name⟩, by decide⟩, flatNumber _⟩, by decide⟩, flatNumber _⟩, by decide⟩

theorem splitLines {ls : List String} (flat : ∀ l ∈ ls, OneLine l.toList) :
    (ls.flatMap fun l => l.toList ++ ['\n']).splitOn '\n' = ls.map String.toList ++ [[]] := by
  induction ls with
  | nil => rfl
  | cons l ls ih =>
    obtain ⟨first, rest⟩ := List.forall_mem_cons.mp flat
    rw [List.flatMap_cons, List.append_assoc, List.singleton_append, List.splitOn_append_cons_self_of_not_mem first,
      ih rest]
    rfl

theorem summaryAligned {width : String → Nat} (pads : Pads width) {s : String} {d : Outline} (done : read s = .ok d) :
    ∃ ls : List String, (summarize width d).toList.splitOn '\n' = ls.map String.toList ++ [[]] ∧
      List.Forall₂ (Shows width d) d.entries ls := by
  refine ⟨d.entries.map (Entry.line width d), ?_, ?_⟩
  · rw [summarize, String.toList_ofList, linesOfEntries]
    refine splitLines fun l mem => ?_
    obtain ⟨e, known, rfl⟩ := List.mem_map.mp mem
    exact flatLine (fun name inside => shownFlat done (entryShown (entryIn.mp known) inside)) width
  · rw [List.forall₂_map_right_iff, List.forall₂_same]
    exact fun e known => entryShows pads (entryIn.mp known)

def terminal (s : String) : Nat := Unicode.columns s.toList

theorem terminalPads : Pads terminal where
  behind s n := by simpa [terminal, spaces] using Unicode.columnsBehind s.toList n
  inFront s := by simpa [terminal] using Unicode.columnsInFront 2 s.toList

def broad : String :=
  "table T\n\tcolumn '売上'\n\tcolumn 'a ''b'\nmeasure N =\nrelationship X\n\tfromColumn: T.'売上'\n\ttoColumn: T.A\n" ++
    "\tfromCardinality: many\n\ttoCardinality: one\n\tcrossFilteringBehavior: none"

def broadOutline : Outline where
  tables := [{ name := "T", columns := [⟨"売上", none⟩, ⟨"a 'b", none⟩] }]
  measures := [⟨"N", ""⟩]
  relationships := [⟨"X", "T", "売上", "T", "A", .manyToOne, .none, true⟩]

theorem broadAligned : Pads terminal ∧ read broad = .ok broadOutline ∧
    ∃ ls : List String, (summarize terminal broadOutline).toList.splitOn '\n' = ls.map String.toList ++ [[]] ∧
      List.Forall₂ (Shows terminal broadOutline) broadOutline.entries ls := by
  have done : read broad = .ok broadOutline := by decide +kernel
  exact ⟨terminalPads, done, summaryAligned terminalPads done⟩

example : summarize terminal broadOutline =
    "table T (?)\n  売上  ?\n  a 'b  ?\nmeasure N\nT[売上] -> T[A]  Many-to-One None\n" := by
  decide +kernel

end Tabular.Definition

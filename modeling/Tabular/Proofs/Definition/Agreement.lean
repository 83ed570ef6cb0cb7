import Tabular.Proofs.Definition.Document
import Tabular.Proofs.Model.Ownership

/-! The definition text of a model, read back, against what a viewer is told of the model. Structure agrees for every
model, and whatever the options say as long as the culture and the default schema stay on their lines. Formulas agree
but for the blanks at the start of a formula of one line. Measures stand in the text by their table and in a view by
the name they carry with them, so their places agree exactly when every measure is owned by the table it stands in. -/
namespace Tabular.Definition
open Text Unicode Validation Viewer
open Vocabulary (label)

structure SameStructure (d : Outline) (v : Document) : Prop where
  tables : d.tables.map (fun t => (t.name, t.mode.map label)) = v.tables.map fun t => (t.name, some t.mode)
  columns : d.tables.map (fun t => t.columns.map fun c => (c.name, c.dataType.map label)) =
    v.tables.map fun t => t.columns.map fun c => (c.name, some c.dataType)
  tableMeasures : d.tables.map (fun t => t.measures.map (·.name)) =
    v.tables.map fun t => t.measures.map (·.name)
  calculatedColumns : d.tables.map (fun t => t.calculatedColumns.map (·.name)) =
    v.tables.map fun t => t.calculatedColumns.map (·.name)
  measures : d.measures.map (·.name) = v.measures.map (·.name)
  relationships : d.relationships.map (fun r => (r.fromTable, r.fromColumn, r.toTable, r.toColumn,
      label r.cardinality, label r.crossFilter, r.isActive)) =
    v.relationships.map fun r => (r.fromTable, r.fromColumn, r.toTable, r.toColumn, r.cardinality,
      r.crossFilter, r.isActive)
  hierarchies : d.hierarchies.map (fun h => (h.name, h.levels)) = v.hierarchies.map fun h => (h.name, h.levels)
  roles : d.roles.map (fun r => (r.name, r.permissions.map (·.1), r.members)) =
    v.roles.map fun r => (r.name, r.permissions.map (·.table), r.members)

theorem relationshipOutlinesMap {β : Type} {rs : List Relationship} {f : RelationshipOutline → β}
    {g : Relationship → β} (same : ∀ name r, f (relationshipOutline name r) = g r) :
    (relationshipOutlines rs).map f = rs.map g := by
  have count := (relationshipNamesFrom rs).length_eq
  rw [relationshipOutlines, List.map_zipWith]
  simp only [same]
  exact zipWithRight count.symm g

theorem outlineStructure (m : Model) : SameStructure (outlineOf m) (.ofModel m) := by
  refine ⟨?_, ?_, ?_, ?_, ?_, ?_, ?_, ?_⟩
  · simp [outlineOf, tableOutline, Document.ofModel, TableView.ofTable]
  · simp [outlineOf, tableOutline, columnOutline, Document.ofModel, TableView.ofTable, ColumnView.ofColumn]
  · simp [outlineOf, tableOutline, measureOutline, Document.ofModel, TableView.ofTable,
      MeasureView.ofMeasure]
  · simp [outlineOf, tableOutline, calculatedColumnOutline, Document.ofModel, TableView.ofTable,
      CalculatedColumnView.ofColumn]
  · simp [outlineOf, measureOutline, Document.ofModel, MeasureView.ofMeasure]
  · simp only [Document.ofModel, List.map_map]
    exact relationshipOutlinesMap fun _ _ => rfl
  · simp [outlineOf, hierarchyOutline, Document.ofModel, HierarchyView.ofHierarchy]
  · simp [outlineOf, roleOutline, permissionOutline, Document.ofModel, RoleView.ofRole]

theorem structureAgrees {m : Model} {o : Options} {ws : List Warning} (accepted : validate m = .ok ws)
    (culture : hasControl o.culture = false) (schema : hasControl o.defaultSchema = false) :
    ∃ a d, compile m o = .ok a ∧ read a.definitionText = .ok d ∧ SameStructure d (.ofModel m) := by
  obtain ⟨a, made, found⟩ := compiledRead accepted culture schema
  exact ⟨a, outlineOf m, made, found, outlineStructure m⟩

def crowded : Model where
  name := "the 'model'"
  description := some "table X\n\tcolumn Y\n/// measure Z = 1"
  tables := [
    { name := "Sales Orders", description := some "measure A = 1\r\n\n\tcolumn B"
      source := some "select *\nfrom \x22orders\x22\n\tcolumn C", connection := some "measure D = 2"
      columns := [{ name := "Key", formatString := some "dataType: int64" }, { name := "it's" }]
      calculatedColumns := [{ name := "column E", expression := "\n\t\ttable F\n\t\t\t: g\n" }]
      measures := [{ name := "Total", expression := "\tVAR x = 1\n\t\tcolumn H\n\n\t/// i" }] },
    { name := "ref", mode := .directConnection, connection := some "", columns := [{ name := "Key" }] }]
  measures := [{ name := "=", expression := "= role J", displayFolder := some "role K" }]
  relationships := [⟨"ref", "Key", "Sales Orders", "column E", .oneToOne, .both, some "\t", false⟩]
  hierarchies := [⟨"Path", ["Key", "level L"], some "ref", none⟩]
  roles := [{ name := "Reader", permissions := [⟨"ref", "\n member M\n  = 1"⟩], members := ["a@b"] }]

theorem crowdedStructure : ∃ a d, compile crowded {} = .ok a ∧ read a.definitionText = .ok d ∧
    SameStructure d (.ofModel crowded) := by
  have accepted : validate crowded = .ok [.levelWithoutColumn "Path" "level L"] := by decide
  exact structureAgrees accepted (by decide) (by decide)

/-- Each formula of the outline is the one of the document, up to a change that is the same for all. -/
structure FormulasUnder (change : String → String) (d : Outline) (v : Document) : Prop where
  tableMeasures : d.tables.map (fun t => t.measures.map fun x => (x.name, x.expression)) =
    v.tables.map fun t => t.measures.map fun x => (x.name, change x.expression)
  calculatedColumns : d.tables.map (fun t => t.calculatedColumns.map fun c => (c.name, c.expression)) =
    v.tables.map fun t => t.calculatedColumns.map fun c => (c.name, change c.expression)
  measures : d.measures.map (fun x => (x.name, x.expression)) =
    v.measures.map fun x => (x.name, change x.expression)
  permissions : d.roles.map (·.permissions) =
    v.roles.map fun r => r.permissions.map fun p => (p.table, change p.filter)

def formulas (v : Document) : List String :=
  v.tables.flatMap (fun t => t.measures.map (·.expression) ++ t.calculatedColumns.map (·.expression))
    ++ v.measures.map (·.expression) ++ v.roles.flatMap fun r => r.permissions.map (·.filter)

theorem readBackFixed {s : String} : readBack s = s ↔ '\n' ∈ s.toList ∨ StartsFilled s.toList := by
  unfold readBack
  split
  · rename_i feed
    exact iff_of_true rfl (.inl feed)
  · rename_i flat
    rw [← String.toList_inj, String.toList_ofList]
    constructor
    · intro same
      refine .inr fun c first => ?_
      have dropped : s.toList.dropWhile isBlank = s.toList := same
      have kept := List.head?_dropWhile_not isBlank s.toList
      rw [dropped, first] at kept
      simpa using kept
    · rintro (feed | starts)
      · exact absurd feed flat
      · exact trimStartFixed starts

theorem outlineFormulas (m : Model) : FormulasUnder readBack (outlineOf m) (.ofModel m) := by
  refine ⟨?_, ?_, ?_, ?_⟩
  · simp [outlineOf, tableOutline, measureOutline, Document.ofModel, TableView.ofTable,
      MeasureView.ofMeasure]
  · simp [outlineOf, tableOutline, calculatedColumnOutline, Document.ofModel, TableView.ofTable,
      CalculatedColumnView.ofColumn]
  · simp [outlineOf, measureOutline, Document.ofModel, MeasureView.ofMeasure]
  · simp [outlineOf, roleOutline, permissionOutline, Document.ofModel, RoleView.ofRole]

theorem formulasUnderIff {f g : String → String} {d : Outline} {v : Document} (h : FormulasUnder f d v) :
    FormulasUnder g d v ↔ ∀ e ∈ formulas v, f e = g e := by
  constructor
  · intro k e mem
    have tableMeasures := List.map_inj_left.mp (h.tableMeasures.symm.trans k.tableMeasures)
    have calculated := List.map_inj_left.mp (h.calculatedColumns.symm.trans k.calculatedColumns)
    have measures := List.map_inj_left.mp (h.measures.symm.trans k.measures)
    have permissions := List.map_inj_left.mp (h.permissions.symm.trans k.permissions)
    simp only [formulas, List.mem_append, List.mem_flatMap, List.mem_map] at mem
    rcases mem with (⟨t, isTable, ⟨x, member, rfl⟩ | ⟨c, member, rfl⟩⟩ | ⟨x, member, rfl⟩) |
      ⟨r, isRole, p, member, rfl⟩
    · exact (Prod.ext_iff.mp (List.map_inj_left.mp (tableMeasures t isTable) x member)).2
    · exact (Prod.ext_iff.mp (List.map_inj_left.mp (calculated t isTable) c member)).2
    · exact (Prod.ext_iff.mp (measures x member)).2
    · exact (Prod.ext_iff.mp (List.map_inj_left.mp (permissions r isRole) p member)).2
  · intro agree
    simp only [formulas, List.mem_append, List.mem_flatMap, List.mem_map] at agree
    refine ⟨h.tableMeasures.trans (List.map_congr_left fun t isTable => List.map_congr_left fun x member => ?_),
      h.calculatedColumns.trans (List.map_congr_left fun t isTable => List.map_congr_left fun c member => ?_),
      h.measures.trans (List.map_congr_left fun x member => ?_),
      h.permissions.trans (List.map_congr_left fun r isRole => List.map_congr_left fun p member => ?_)⟩
    · rw [agree _ (.inl (.inl ⟨t, isTable, .inl ⟨x, member, rfl⟩⟩))]
    · rw [agree _ (.inl (.inl ⟨t, isTable, .inr ⟨c, member, rfl⟩⟩))]
    · rw [agree _ (.inl (.inr ⟨x, member, rfl⟩))]
    · rw [agree _ (.inr ⟨r, isRole, p, member, rfl⟩)]

theorem formulasAgree {m : Model} {o : Options} {ws : List Warning} (accepted : validate m = .ok ws)
    (culture : hasControl o.culture = false) (schema : hasControl o.defaultSchema = false) :
    ∃ a d, compile m o = .ok a ∧ read a.definitionText = .ok d ∧
      FormulasUnder readBack d (.ofModel m) ∧
      (FormulasUnder id d (.ofModel m) ↔
        ∀ e ∈ formulas (.ofModel m), '\n' ∈ e.toList ∨ StartsFilled e.toList) := by
  obtain ⟨a, made, found⟩ := compiledRead accepted culture schema
  have under := outlineFormulas m
  refine ⟨a, outlineOf m, made, found, under, ?_⟩
  rw [formulasUnderIff under]
  simp only [id_eq, readBackFixed]

theorem crowdedFormulas : ∃ a d, compile crowded {} = .ok a ∧ read a.definitionText = .ok d ∧
    FormulasUnder readBack d (.ofModel crowded) ∧ (FormulasUnder id d (.ofModel crowded) ↔
      ∀ e ∈ formulas (.ofModel crowded), '\n' ∈ e.toList ∨ StartsFilled e.toList) := by
  have accepted : validate crowded = .ok [.levelWithoutColumn "Path" "level L"] := by decide
  exact formulasAgree accepted (by decide) (by decide)

def padded : Model where
  name := "Shop"
  measures := [{ name := "Total", expression := "\u00a0SUM(x)" }]

theorem paddedLosesBlank : ∃ a d, compile padded {} = .ok a ∧ read a.definitionText = .ok d ∧
    d.measures = [⟨"Total", "SUM(x)"⟩] ∧
    (Document.ofModel padded).measures.map (·.expression) = ["\u00a0SUM(x)"] ∧
    ¬ FormulasUnder id d (.ofModel padded) := by
  have accepted : validate padded = .ok [] := by decide
  obtain ⟨a, made, found⟩ := compiledRead (o := {}) accepted (by decide) (by decide)
  have lost : (outlineOf padded).measures = [⟨"Total", "SUM(x)"⟩] := by decide
  have carried : (Document.ofModel padded).measures.map (·.expression) = ["\u00a0SUM(x)"] := by decide
  refine ⟨a, outlineOf padded, made, found, lost, carried, fun agree => ?_⟩
  have same := agree.measures
  revert same
  decide

theorem optionsUnseen {m : Model} {o p : Options} {ws : List Warning} (accepted : validate m = .ok ws)
    (left : FlatOptions m o) (right : FlatOptions m p) :
    ∃ a b d, compile m o = .ok a ∧ compile m p = .ok b ∧
      read a.definitionText = .ok d ∧ read b.definitionText = .ok d := by
  obtain ⟨a, madeA⟩ := validatedCompiles o accepted
  obtain ⟨b, madeB⟩ := validatedCompiles p accepted
  exact ⟨a, b, outlineOf m, madeA, madeB, flatTextRead madeA left, flatTextRead madeB right⟩

def mixed : Model where
  name := "Shop"
  tables := [{ name := "Sales", mode := .directConnection, columns := [{ name := "Amount" }] },
    { name := "Dates", columns := [{ name := "Day" }] }]

def foreign : Options where
  culture := " \r:\t"
  compatibilityLevel := 0
  defaultSchema := "column Ghost"
  defaultServer := "\n\tcolumn Ghost"

theorem foreignUnseen : ∃ a b d, compile mixed {} = .ok a ∧ compile mixed foreign = .ok b ∧
    read a.definitionText = .ok d ∧ read b.definitionText = .ok d := by
  have accepted : validate mixed = .ok [.noResource "Sales"] := by decide
  have flat (o : Options) (culture : Text.OneLine o.culture.toList)
      (schema : Text.OneLine o.defaultSchema.toList) : FlatOptions mixed o := ⟨culture, fun _ _ _ _ => schema⟩
  exact optionsUnseen accepted (flat {} (by decide) (by decide)) (flat foreign (by decide) (by decide))

def widened : Options where
  defaultSchema := "dbo\n\n\tcolumn Ghost\n\t\tdataType: string\n\t\tsummarizeBy: none\n\t\tsourceColumn: Ghost"

def direct (columns : List Column) : Table where
  name := "Sales"
  mode := .directConnection
  columns := columns

def single (t : Table) : Model where
  name := "Shop"
  tables := [t]

theorem schemaAddsColumn : ∃ a b d e, compile (single (direct [{ name := "Amount" }])) {} = .ok a ∧
    compile (single (direct [{ name := "Amount" }])) widened = .ok b ∧
    read a.definitionText = .ok d ∧ read b.definitionText = .ok e ∧
    d.tables.map (fun t => t.columns.map (·.name)) = [["Amount"]] ∧
    e.tables.map (fun t => t.columns.map (·.name)) = [["Ghost", "Amount"]] := by
  have accepted : validate (single (direct [{ name := "Amount" }])) = .ok [.noResource "Sales"] := by decide
  have declared : validate (single (direct [{ name := "Ghost" }, { name := "Amount" }])) =
      .ok [.noResource "Sales"] := by decide
  have flat (m : Model) : FlatOptions m {} := ⟨by decide, fun _ _ _ _ => by decide⟩
  obtain ⟨a, madeA⟩ := validatedCompiles {} accepted
  obtain ⟨b, madeB⟩ := validatedCompiles widened accepted
  obtain ⟨c, madeC⟩ := validatedCompiles {} declared
  have line : Line.chars ⟨3, "schemaName: " ++ widened.defaultSchema⟩ =
      (⟨3, "schemaName: dbo"⟩ :: Line.blank :: columnLines { name := "Ghost" }).flatMap Line.chars := by decide
  -- the text is that of a table which declares the other column
  have table : (tableLines (direct [{ name := "Amount" }]) widened).flatMap Line.chars =
      (tableLines (direct [{ name := "Ghost" }, { name := "Amount" }]) {}).flatMap Line.chars := by
    simp [tableLines, direct, partitionLines, entityLines, spaced, property?, line]
  have chars : (textLines (single (direct [{ name := "Amount" }])) widened).flatMap Line.chars =
      (textLines (single (direct [{ name := "Ghost" }, { name := "Amount" }])) {}).flatMap Line.chars := by
    have culture : widened.culture = "en-US" := rfl
    have level : widened.compatibilityLevel = 1604 := rfl
    have name (columns : List Column) : (direct columns).name = "Sales" := rfl
    simp [textLines, single, spaced, databaseLines, modelLines, culture, level, name, table]
  have text : b.definitionText = c.definitionText := by
    rw [definitionTextLines madeB, definitionTextLines madeC, render, render, chars]
  have found := flatTextRead madeC (flat _)
  exact ⟨a, b, _, _, madeA, madeB, flatTextRead madeA (flat _), text ▸ found, by decide, by decide⟩

end Tabular.Definition

namespace Tabular.Viewer
open Definition (Outline read outlineOf validatedCompiles compiledTextRead)

structure OwnersAgree (d : Outline) (v : Document) : Prop where
  tables : v.tables.map (fun t => t.measures.map fun x => (x.name, x.table)) =
    d.tables.map fun t => t.measures.map fun x => (x.name, some t.name)
  model : v.measures.map (fun x => (x.name, x.table)) = d.measures.map fun x => (x.name, none)

theorem ownersAgreeIff (m : Model) : OwnersAgree (outlineOf m) (.ofModel m) ↔ m.OwnsMeasures := by
  have tables : ((Document.ofModel m).tables.map fun t => t.measures.map fun x => (x.name, x.table)) =
      m.tables.map fun t => t.measures.map fun x => (x.name, x.owner) := by
    simp [Document.ofModel, TableView.ofTable, MeasureView.ofMeasure]
  have placed : ((outlineOf m).tables.map fun t => t.measures.map fun x => (x.name, some t.name)) =
      m.tables.map fun t => t.measures.map fun x => (x.name, some t.name) := by
    simp [outlineOf, Definition.tableOutline, Definition.measureOutline]
  have model : (Document.ofModel m).measures.map (fun x => (x.name, x.table)) =
      m.measures.map fun x => (x.name, x.owner) := by
    simp [Document.ofModel, MeasureView.ofMeasure]
  have loose : (outlineOf m).measures.map (fun x => (x.name, (none : Option String))) =
      m.measures.map fun x => (x.name, none) := by
    simp [outlineOf, Definition.measureOutline]
  constructor
  · intro agree
    have each := List.map_inj_left.mp (tables.symm.trans (agree.tables.trans placed))
    have rest := List.map_inj_left.mp (model.symm.trans (agree.model.trans loose))
    refine ⟨fun t isTable x member => ?_, fun x member => (Prod.ext_iff.mp (rest x member)).2⟩
    exact (Prod.ext_iff.mp (List.map_inj_left.mp (each t isTable) x member)).2
  · intro owns
    refine ⟨tables.trans (Eq.trans ?_ placed.symm), model.trans (Eq.trans ?_ loose.symm)⟩
    · refine List.map_congr_left fun t isTable => List.map_congr_left fun x member => ?_
      rw [owns.tables t isTable x member]
    · refine List.map_congr_left fun x member => ?_
      rw [owns.model x member]

theorem ownersAgree {m : Model} {a : Artifacts} (made : compile m {} = .ok a) :
    ∃ d, read a.definitionText = .ok d ∧ (OwnersAgree d (.ofModel m) ↔ m.OwnsMeasures) ∧
      ∀ w : Workbench, w.Assembled → w.model = m → OwnersAgree d (.ofModel m) := by
  have agreeIff := ownersAgreeIff m
  refine ⟨outlineOf m, compiledTextRead made (by decide) (by decide), agreeIff, ?_⟩
  rintro w assembled rfl
  exact agreeIff.mpr assembled.owns

def renamed : Workbench :=
  let draft : Table := { name := "Draft", measures := [{ name := "Total", expression := "1", owner := some "Draft" }] }
  Workbench.step ⟨{ name := "Shop" }, [("sales", draft)]⟩ (.rename "sales" "Sales")

def added : Model := (renamed.step (.addTable "sales")).model

theorem addedAgrees : ∃ a d, compile added {} = .ok a ∧ read a.definitionText = .ok d ∧
    OwnersAgree d (.ofModel added) := by
  have accepted : Validation.validate added = .ok [.noColumns "Sales"] := by decide
  obtain ⟨a, made⟩ := validatedCompiles {} accepted
  obtain ⟨d, found, _, agrees⟩ := ownersAgree made
  have start : renamed.Assembled := .start (.fresh "Shop" none)
  have next : (renamed.step (.addTable "sales")).Assembled := start.step trivial
  exact ⟨a, d, made, found, agrees _ next rfl⟩

def pushed : Model := (renamed.step (.pushTable "sales")).model

theorem pushedDisagrees : ∃ a d, compile pushed {} = .ok a ∧ read a.definitionText = .ok d ∧
    d.tables.map (fun t => (t.name, t.measures.map (·.name))) = [("Sales", ["Total"])] ∧
    (Document.ofModel pushed).tables.map (fun t => t.measures.map (·.table)) = [[some "Draft"]] ∧
    ¬ OwnersAgree d (.ofModel pushed) := by
  have accepted : Validation.validate pushed = .ok [.noColumns "Sales"] := by decide
  obtain ⟨a, made⟩ := validatedCompiles {} accepted
  refine ⟨a, _, made, compiledTextRead made (by decide) (by decide), by decide, by decide, fun agree => ?_⟩
  have same := agree.tables
  revert same
  decide

end Tabular.Viewer

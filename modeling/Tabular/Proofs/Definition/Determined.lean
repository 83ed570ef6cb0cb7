import Tabular.Definition.Writing
import Tabular.Proofs.Definition.Rows
import Tabular.Proofs.Expression.NormalForm
import Tabular.Compilation

/-! The definition files are determined by what a viewer is told of the model, legal or not. A view names
every choice by its label and holds every formula in normal form, and the files show no more than that of
either. -/
namespace Tabular.Definition
open Text Expression Viewer
open Vocabulary (label ofLabel)

theorem modeBack (v : TableMode) : ofLabel (label v) = .ok v := by cases v <;> rfl

theorem dataTypeBack (v : DataType) : ofLabel (label v) = .ok v := by cases v <;> rfl

theorem cardinalityBack (v : Cardinality) : ofLabel (label v) = .ok v := by cases v <;> rfl

theorem crossFilterBack (v : CrossFilter) : ofLabel (label v) = .ok v := by cases v <;> rfl

theorem labelInjective {α : Type} [Vocabulary α] (back : ∀ v : α, ofLabel (label v) = .ok v) :
    Function.Injective (label : α → String) := fun v w same => by
  have read := back v
  rw [same, back w] at read
  exact (Except.ok.inj read).symm

theorem joinInjective {as bs : List (List Char)} (left : ∀ l ∈ as, LineText l)
    (right : ∀ l ∈ bs, LineText l) (same : joinLines as = joinLines bs) : as = bs := by
  have read := congrArg filledLines same
  rwa [filledJoined left, filledJoined right] at read

theorem formulaDetermined {depth : Nat} {header e f : String} (same : normalize e = normalize f) :
    formula depth header e = formula depth header f := by
  have chars : joinLines (normalLines e.toList) = joinLines (normalLines f.toList) :=
    String.ofList_injective same
  have lines := joinInjective (fun _ => normalLinesText) (fun _ => normalLinesText) chars
  rw [formula, formula, lines]

theorem measureDetermined (depth : Nat) {x y : Measure} (same : MeasureView.ofMeasure x = .ofMeasure y) :
    measureLines depth x = measureLines depth y := by
  simp only [MeasureView.ofMeasure, MeasureView.mk.injEq] at same
  obtain ⟨name, _, expression, description, formatString, folder, dataType, isHidden⟩ := same
  have type := Option.map_injective (labelInjective dataTypeBack) dataType
  rw [measureLines, measureLines, name, description, formatString, folder, type, isHidden,
    formulaDetermined expression]

theorem columnDetermined {c d : Column} (same : ColumnView.ofColumn c = .ofColumn d) :
    columnLines c = columnLines d := by
  simp only [ColumnView.ofColumn, ColumnView.mk.injEq] at same
  obtain ⟨name, dataType, description, formatString, isHidden⟩ := same
  rw [columnLines, columnLines, name, labelInjective dataTypeBack dataType, description, formatString, isHidden]

theorem calculatedColumnDetermined {c d : CalculatedColumn}
    (same : CalculatedColumnView.ofColumn c = .ofColumn d) :
    calculatedColumnLines c = calculatedColumnLines d := by
  simp only [CalculatedColumnView.ofColumn, CalculatedColumnView.mk.injEq] at same
  obtain ⟨name, expression, dataType, description⟩ := same
  rw [calculatedColumnLines, calculatedColumnLines, name, labelInjective dataTypeBack dataType, description,
    formulaDetermined expression]

theorem tableDetermined (o : Options) {t u : Table} (same : TableView.ofTable t = .ofTable u) :
    tableLines t o = tableLines u o := by
  simp only [TableView.ofTable, TableView.mk.injEq] at same
  obtain ⟨name, schema, mode, description, source, connection, columns, calculated, measures⟩ := same
  have partition : partitionLines t o = partitionLines u o := by
    simp only [partitionLines, entityLines, queryLines, name, schema, labelInjective modeBack mode, source,
      connection]
  rw [tableLines, tableLines, name, labelInjective modeBack mode, description, partition,
    mapDetermined (fun _ _ => columnDetermined) columns,
    mapDetermined (fun _ _ => calculatedColumnDetermined) calculated,
    mapDetermined (fun _ _ => measureDetermined 1) measures]

theorem relationshipViewInjective : Function.Injective RelationshipView.ofRelationship := fun r q same => by
  simp only [RelationshipView.ofRelationship, RelationshipView.mk.injEq] at same
  obtain ⟨fromTable, fromColumn, toTable, toColumn, cardinality, crossFilter, isActive, description⟩ := same
  rw [Relationship.mk.injEq]
  exact ⟨fromTable, fromColumn, toTable, toColumn, labelInjective cardinalityBack cardinality,
    labelInjective crossFilterBack crossFilter, description, isActive⟩

theorem hierarchyViewInjective : Function.Injective HierarchyView.ofHierarchy := fun h g same => by
  simp only [HierarchyView.ofHierarchy, HierarchyView.mk.injEq] at same
  rw [Hierarchy.mk.injEq]
  exact ⟨same.1, same.2.2.1, same.2.1, same.2.2.2⟩

theorem permissionDetermined {p q : TablePermission}
    (same : PermissionView.mk p.table (normalize p.filter) = ⟨q.table, normalize q.filter⟩) :
    formula 1 ("tablePermission " ++ Name.quote p.table) p.filter =
      formula 1 ("tablePermission " ++ Name.quote q.table) q.filter := by
  obtain ⟨table, filter⟩ := PermissionView.mk.inj same
  rw [table, formulaDetermined filter]

theorem roleDetermined {r q : Role} (same : RoleView.ofRole r = .ofRole q) : roleLines r = roleLines q := by
  simp only [RoleView.ofRole, RoleView.mk.injEq] at same
  obtain ⟨name, description, permissions, members⟩ := same
  rw [roleLines, roleLines, name, description, members, mapDetermined (fun _ _ => permissionDetermined) permissions]

theorem zipWithDetermined {α β γ δ : Type} {view : β → γ} {f : α → β → δ}
    (determined : ∀ a x y, view x = view y → f a x = f a y) (stems : List α) {xs ys : List β}
    (same : xs.map view = ys.map view) : List.zipWith f stems xs = List.zipWith f stems ys := by
  induction stems generalizing xs ys with
  | nil => rfl
  | cons stem stems ih =>
    cases xs with
    | nil => rw [List.map_eq_nil_iff.mp same.symm]
    | cons x xs =>
      cases ys with
      | nil => simp at same
      | cons y ys =>
        simp only [List.map_cons, List.cons.injEq] at same
        rw [List.zipWith_cons_cons, List.zipWith_cons_cons, determined stem x y same.1, ih same.2]

theorem filesDetermined {m n : Model} (o : Options) (same : Document.ofModel m = Document.ofModel n) :
    files m o = files n o := by
  simp only [Document.ofModel, Document.mk.injEq] at same
  obtain ⟨name, description, tables, relationships, measures, hierarchies, roles⟩ := same
  have tableNames : m.tables.map (·.name) = n.tables.map (·.name) :=
    mapDetermined (fun _ _ view => congrArg TableView.name view) tables
  have roleNames : m.roles.map (·.name) = n.roles.map (·.name) :=
    mapDetermined (fun _ _ view => congrArg RoleView.name view) roles
  have model : modelLines m o = modelLines n o := by
    rw [modelLines, modelLines, description, tableNames, roleNames,
      mapDetermined (fun _ _ => measureDetermined 0) measures]
  have tableParts : tableFiles m o = tableFiles n o := by
    rw [tableFiles, tableFiles, tableNames]
    exact zipWithDetermined (fun _ _ _ view => by rw [tableDetermined o view]) _ tables
  have roleParts : roleFiles m = roleFiles n := by
    rw [roleFiles, roleFiles, roleNames]
    exact zipWithDetermined (fun _ _ _ view => by rw [roleDetermined view]) _ roles
  rw [files, files, databaseLines, databaseLines, name, model, tableParts, roleParts,
    relationshipViewInjective.list_map relationships, hierarchyViewInjective.list_map hierarchies]

def sketched : Model where
  name := "Shop"
  tables := [
    { name := "Sales", columns := [{ name := "Amount" }]
      measures := [{ name := "Total", expression := "\r\n\tVAR x = 1 \r\n\t\tRETURN x\r\n", owner := some "Sales" }] },
    { name := "sales", mode := .directConnection }]
  roles := [{ name := "Reader", permissions := [⟨"Sales", "  TRUE()\t"⟩] }]

def finished : Model where
  name := "Shop"
  tables := [
    { name := "Sales", columns := [{ name := "Amount", owner := some "Sales" }]
      measures := [{ name := "Total", expression := "VAR x = 1\n\tRETURN x", owner := some "Sales" }] },
    { name := "sales", mode := .directConnection }]
  roles := [{ name := "Reader", permissions := [⟨"Sales", "TRUE()"⟩] }]

theorem sketchedFinished : sketched ≠ finished ∧ Document.ofModel sketched = Document.ofModel finished ∧
    files sketched {} = files finished {} := by
  have same : Document.ofModel sketched = Document.ofModel finished := by decide
  exact ⟨by decide, same, filesDetermined {} same⟩

end Tabular.Definition

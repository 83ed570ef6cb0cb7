import Tabular.Definition.Line
import Tabular.Definition.Writing
import Tabular.Json.Value
import Tabular.Model.Basic
import Tabular.Validation.Check

/-! From a model to everything that is written for it: the definition files, and what a viewer is told about the
model. That is every object of the definition text, in the same order, with labels in place of tokens and formulas in
normal form. -/
namespace Tabular.Viewer
open Vocabulary (label)
open Json (Value optional texts)

structure ColumnView where
  name : String
  dataType : String
  description : Option String
  formatString : Option String
  isHidden : Bool
  deriving DecidableEq, Repr

structure CalculatedColumnView where
  name : String
  expression : String
  dataType : String
  description : Option String
  deriving DecidableEq, Repr

structure MeasureView where
  name : String
  table : Option String
  expression : String
  description : Option String
  formatString : Option String
  folder : Option String
  dataType : Option String
  isHidden : Bool
  deriving DecidableEq, Repr

structure TableView where
  name : String
  schema : Option String
  mode : String
  description : Option String
  source : Option String
  connection : Option String
  columns : List ColumnView
  calculatedColumns : List CalculatedColumnView
  measures : List MeasureView
  deriving DecidableEq, Repr

structure RelationshipView where
  fromTable : String
  fromColumn : String
  toTable : String
  toColumn : String
  cardinality : String
  crossFilter : String
  isActive : Bool
  description : Option String
  deriving DecidableEq, Repr

structure HierarchyView where
  name : String
  table : Option String
  levels : List String
  description : Option String
  deriving DecidableEq, Repr

structure PermissionView where
  table : String
  filter : String
  deriving DecidableEq, Repr

structure RoleView where
  name : String
  description : Option String
  permissions : List PermissionView
  members : List String
  deriving DecidableEq, Repr

structure Document where
  name : String
  description : Option String
  tables : List TableView
  relationships : List RelationshipView
  measures : List MeasureView
  hierarchies : List HierarchyView
  roles : List RoleView
  deriving DecidableEq, Repr

def ColumnView.ofColumn (c : Column) : ColumnView :=
  ⟨c.name, label c.dataType, c.description, c.formatString, c.isHidden⟩

def CalculatedColumnView.ofColumn (c : CalculatedColumn) : CalculatedColumnView :=
  ⟨c.name, Expression.normalize c.expression, label c.dataType, c.description⟩

def MeasureView.ofMeasure (m : Measure) : MeasureView :=
  ⟨m.name, m.owner, Expression.normalize m.expression, m.description, m.formatString,
    m.displayFolder, m.dataType.map label, m.isHidden⟩

def TableView.ofTable (t : Table) : TableView where
  name := t.name
  schema := t.schema
  mode := label t.mode
  description := t.description
  source := t.source
  connection := t.connection
  columns := t.columns.map ColumnView.ofColumn
  calculatedColumns := t.calculatedColumns.map CalculatedColumnView.ofColumn
  measures := t.measures.map MeasureView.ofMeasure

def RelationshipView.ofRelationship (r : Relationship) : RelationshipView :=
  ⟨r.fromTable, r.fromColumn, r.toTable, r.toColumn, label r.cardinality, label r.crossFilter,
    r.isActive, r.description⟩

def HierarchyView.ofHierarchy (h : Hierarchy) : HierarchyView :=
  ⟨h.name, h.table, h.levels, h.description⟩

def RoleView.ofRole (r : Role) : RoleView where
  name := r.name
  description := r.description
  permissions := r.permissions.map fun p => ⟨p.table, Expression.normalize p.filter⟩
  members := r.members

def Document.ofModel (m : Model) : Document where
  name := m.name
  description := m.description
  tables := m.tables.map TableView.ofTable
  relationships := m.relationships.map RelationshipView.ofRelationship
  measures := m.measures.map MeasureView.ofMeasure
  hierarchies := m.hierarchies.map HierarchyView.ofHierarchy
  roles := m.roles.map RoleView.ofRole

def ColumnView.json (c : ColumnView) : Value := .object
  [("name", .text c.name), ("dtype", .text c.dataType), ("description", optional c.description),
    ("format_string", optional c.formatString), ("is_hidden", .bool c.isHidden)]

def CalculatedColumnView.json (c : CalculatedColumnView) : Value := .object
  [("name", .text c.name), ("expression", .text c.expression), ("dtype", .text c.dataType),
    ("description", optional c.description)]

def MeasureView.json (m : MeasureView) : Value := .object
  [("name", .text m.name), ("table", optional m.table), ("expression", .text m.expression),
    ("description", optional m.description), ("format_string", optional m.formatString),
    ("folder", optional m.folder), ("data_type", optional m.dataType),
    ("is_hidden", .bool m.isHidden)]

def TableView.json (t : TableView) : Value := .object
  [("name", .text t.name), ("schema", optional t.schema), ("mode", .text t.mode),
    ("description", optional t.description), ("source", optional t.source),
    ("connection", optional t.connection), ("columns", .array (t.columns.map ColumnView.json)),
    ("calculated_columns", .array (t.calculatedColumns.map CalculatedColumnView.json)),
    ("measures", .array (t.measures.map MeasureView.json))]

def RelationshipView.json (r : RelationshipView) : Value := .object
  [("from_table", .text r.fromTable), ("from_column", .text r.fromColumn),
    ("to_table", .text r.toTable), ("to_column", .text r.toColumn),
    ("cardinality", .text r.cardinality), ("cross_filter_direction", .text r.crossFilter),
    ("is_active", .bool r.isActive), ("description", optional r.description)]

def HierarchyView.json (h : HierarchyView) : Value := .object
  [("name", .text h.name), ("table", optional h.table), ("levels", texts h.levels),
    ("description", optional h.description)]

def RoleView.json (r : RoleView) : Value := .object
  [("name", .text r.name), ("description", optional r.description),
    ("table_permissions", .array (r.permissions.map fun p =>
      .object [("table", .text p.table), ("filter_expression", .text p.filter)])),
    ("members", texts r.members)]

def Document.json (d : Document) : Value := .object
  [("name", .text d.name), ("description", optional d.description),
    ("tables", .array (d.tables.map TableView.json)),
    ("relationships", .array (d.relationships.map RelationshipView.json)),
    ("measures", .array (d.measures.map MeasureView.json)),
    ("hierarchies", .array (d.hierarchies.map HierarchyView.json)),
    ("roles", .array (d.roles.map RoleView.json))]

def Document.render (d : Document) : String := d.json.render

end Tabular.Viewer

namespace Tabular
open Definition (Options File)

structure Artifacts where
  modelName : String
  slug : String
  files : List File
  json : String
  warnings : List Validation.Warning
  deriving DecidableEq, Repr

def markerFile : File :=
  ⟨"definition.pbism",
    (Json.Value.object [("settings", .object []), ("version", .text "4.0")]).render⟩

def compile (m : Model) (o : Options) : Except Validation.Fault Artifacts := do
  let warnings ← Validation.validate m
  return {
    modelName := m.name
    slug := Definition.fileStem m.name
    files := markerFile :: Definition.files m o
    json := (Viewer.Document.ofModel m).render
    warnings }

namespace Artifacts

def definitionFolder (a : Artifacts) : String := a.slug ++ ".SemanticModel"

def definitionFiles (a : Artifacts) : List File :=
  a.files.filter fun f => ".tmdl".toList.isSuffixOf f.path.toList

def definitionText (a : Artifacts) : String := Definition.joinFiles a.definitionFiles

end Artifacts

end Tabular

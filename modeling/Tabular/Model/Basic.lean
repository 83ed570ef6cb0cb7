import Tabular.Vocabulary

/-! Semantic models as they are declared. Building one never fails; what makes one legal is said in
`Tabular.Validation`. -/
namespace Tabular

structure Column where
  name : String
  dataType : DataType := .text
  description : Option String := none
  formatString : Option String := none
  isHidden : Bool := false
  owner : Option String := none
  deriving DecidableEq, Repr, Inhabited

structure CalculatedColumn where
  name : String
  expression : String
  dataType : DataType := .text
  description : Option String := none
  owner : Option String := none
  deriving DecidableEq, Repr, Inhabited

structure Measure where
  name : String
  expression : String
  description : Option String := none
  formatString : Option String := none
  displayFolder : Option String := none
  isHidden : Bool := false
  dataType : Option DataType := none
  owner : Option String := none
  deriving DecidableEq, Repr, Inhabited

structure Table where
  name : String
  schema : Option String := none
  mode : TableMode := .cached
  description : Option String := none
  /-- A query for cached tables, an entity name for direct connections. -/
  source : Option String := none
  /-- A server for cached tables, a resource for direct connections. -/
  connection : Option String := none
  columns : List Column := []
  calculatedColumns : List CalculatedColumn := []
  measures : List Measure := []
  deriving DecidableEq, Repr, Inhabited

structure Relationship where
  fromTable : String
  fromColumn : String
  toTable : String
  toColumn : String
  cardinality : Cardinality := .manyToOne
  crossFilter : CrossFilter := .single
  description : Option String := none
  isActive : Bool := true
  deriving DecidableEq, Repr, Inhabited

structure Hierarchy where
  name : String
  levels : List String
  table : Option String := none
  description : Option String := none
  deriving DecidableEq, Repr, Inhabited

structure TablePermission where
  table : String
  filter : String
  deriving DecidableEq, Repr, Inhabited

structure Role where
  name : String
  description : Option String := none
  permissions : List TablePermission := []
  members : List String := []
  deriving DecidableEq, Repr, Inhabited

structure Model where
  name : String
  description : Option String := none
  tables : List Table := []
  measures : List Measure := []
  relationships : List Relationship := []
  hierarchies : List Hierarchy := []
  roles : List Role := []
  deriving DecidableEq, Repr, Inhabited

def qualify : Option String → String → String
  | some owner, name => owner ++ "[" ++ name ++ "]"
  | none, name => name

def Column.qualifiedName (c : Column) : String := qualify c.owner c.name

def CalculatedColumn.qualifiedName (c : CalculatedColumn) : String := qualify c.owner c.name

def Measure.qualifiedName (m : Measure) : String := qualify m.owner m.name

namespace Table

def addColumn (t : Table) (c : Column) : Table :=
  { t with columns := t.columns ++ [{ c with owner := some t.name }] }

def addCalculatedColumn (t : Table) (c : CalculatedColumn) : Table :=
  { t with calculatedColumns := t.calculatedColumns ++ [{ c with owner := some t.name }] }

def addMeasure (t : Table) (m : Measure) : Table :=
  { t with measures := t.measures ++ [{ m with owner := some t.name }] }

def columnNames (t : Table) : List String :=
  t.columns.map (·.name) ++ t.calculatedColumns.map (·.name)

def hasColumn (t : Table) (name : String) : Bool := t.columnNames.contains name

def attachOwners (t : Table) : Table :=
  { t with
    columns := t.columns.map fun c => { c with owner := some t.name }
    calculatedColumns := t.calculatedColumns.map fun c => { c with owner := some t.name }
    measures := t.measures.map fun m => { m with owner := some t.name } }

end Table

namespace Model

def addTable (m : Model) (t : Table) : Model :=
  { m with tables := m.tables ++ [t.attachOwners] }

def addMeasure (m : Model) (measure : Measure) : Model :=
  { m with measures := m.measures ++ [{ measure with owner := none }] }

def addRelationship (m : Model) (r : Relationship) : Model :=
  { m with relationships := m.relationships ++ [r] }

def addHierarchy (m : Model) (h : Hierarchy) : Model :=
  { m with hierarchies := m.hierarchies ++ [h] }

def addRole (m : Model) (r : Role) : Model := { m with roles := m.roles ++ [r] }

def table? (m : Model) (name : String) : Option Table := m.tables.find? fun t => t.name == name

def allMeasures (m : Model) : List Measure := m.tables.flatMap (·.measures) ++ m.measures

def attachOwners (m : Model) : Model :=
  { m with
    tables := m.tables.map Table.attachOwners
    measures := m.measures.map fun x => { x with owner := none } }

end Model

/-- Whatever reads the format of a declaration, the owners are set behind it. -/
def Model.load {ε : Type} (read : String → Except ε Model) (s : String) : Except ε Model :=
  (read s).map attachOwners

end Tabular

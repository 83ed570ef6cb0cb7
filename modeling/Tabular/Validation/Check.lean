import Tabular.Model.Basic
import Tabular.Unicode.Class
import Tabular.Validation.Fault

/-! Which models can be compiled. Six stages look for faults one after the other, each at every object
that it concerns, and the first fault found is the answer. Warnings are collected from models that
have no fault. -/
namespace Tabular.Validation
open Unicode

def hasControl (s : String) : Bool := s.toList.any isControl

def nameDefect? (name : String) : Option NameDefect :=
  if name.toList.all isBlank then some .empty
  else if hasControl name then some .control
  else none

def tableNames (t : Table) : List (NameKind × String) :=
  (.table, t.name) :: t.columns.map (fun c => (.column, c.name))
    ++ t.calculatedColumns.map (fun c => (.calculatedColumn, c.name))
    ++ t.measures.map (fun m => (.measure, m.name))

def roleNames (r : Role) : List (NameKind × String) :=
  (.role, r.name) :: r.permissions.map (fun p => (.table, p.table))
    ++ r.members.map (fun m => (.member, m))

def names (m : Model) : List (NameKind × String) :=
  (.model, m.name) :: m.tables.flatMap tableNames
    ++ m.measures.map (fun x => (.measure, x.name))
    ++ m.hierarchies.flatMap (fun h => (.hierarchy, h.name) :: h.levels.map fun l => (.level, l))
    ++ m.roles.flatMap roleNames

def nameFault? (m : Model) : Option Fault :=
  (names m).findSome? fun n => (nameDefect? n.2).map fun d => .invalidName n.1 n.2 d

structure LineValue where
  object : String
  property : Property
  value : Option String
  deriving DecidableEq, Repr

def tableValues (t : Table) : List LineValue :=
  let object := "table " ++ t.name
  [⟨object, .schema, t.schema⟩, ⟨object, .connection, t.connection⟩]
    -- the source of a cached table is a query, where a line break can be spelled
    ++ (if t.mode = .directConnection then [⟨object, .source, t.source⟩] else [])
    ++ t.columns.map fun c => ⟨"column " ++ c.qualifiedName, .formatString, c.formatString⟩

def measureValues (x : Measure) : List LineValue :=
  [⟨"measure " ++ x.name, .formatString, x.formatString⟩,
    ⟨"measure " ++ x.name, .displayFolder, x.displayFolder⟩]

def lineValues (m : Model) : List LineValue :=
  m.tables.flatMap tableValues ++ m.allMeasures.flatMap measureValues

def propertyFault? (m : Model) : Option Fault :=
  (lineValues m).findSome? fun v =>
    if v.value.any hasControl then some (.invalidProperty v.object v.property) else none

def modeFault? (m : Model) : Option Fault :=
  m.tables.findSome? fun t =>
    if t.mode.supportsCalculatedColumns then none
    else t.calculatedColumns.head?.map fun c => .incompatibleMode t.name c.name

def relationshipContext (r : Relationship) : String :=
  "relationship " ++ qualify (some r.fromTable) r.fromColumn ++ " -> "
    ++ qualify (some r.toTable) r.toColumn

def endpointFault? (m : Model) (context table column : String) : Option Fault :=
  match m.table? table with
  | none => some (.unresolved context ("table " ++ table))
  | some t =>
    if t.hasColumn column then none
    else some (.unresolved context ("column " ++ qualify (some table) column))

def relationshipFault? (m : Model) : Option Fault :=
  m.relationships.findSome? fun r =>
    (endpointFault? m (relationshipContext r) r.fromTable r.fromColumn).or
      (endpointFault? m (relationshipContext r) r.toTable r.toColumn)

def firstRepeated? (l : List String) : Option String := go [] l
where
  go (seen : List String) : List String → Option String
    | [] => none
    | x :: rest => if seen.contains x then some x else go (x :: seen) rest

def duplicateFault? (m : Model) : Option Fault :=
  ((firstRepeated? (m.tables.map (·.name))).map (.duplicateName .table)).or <|
  (m.tables.findSome? fun t =>
    (firstRepeated? t.columnNames).map fun n =>
      .duplicateName .column (qualify (some t.name) n)).or <|
  ((firstRepeated? (m.allMeasures.map (·.name))).map (.duplicateName .measure)).or <|
  (firstRepeated? (m.roles.map (·.name))).map (.duplicateName .role)

def hierarchyFault? (m : Model) : Option Fault :=
  m.hierarchies.findSome? fun h =>
    if h.levels.isEmpty then some (.emptyHierarchy h.name)
    else match h.table with
      | some t =>
        if (m.table? t).isSome then none
        else some (.unresolved ("hierarchy " ++ h.name) ("table " ++ t))
      | none => none

def stages : List (Model → Option Fault) :=
  [nameFault?, propertyFault?, modeFault?, relationshipFault?, duplicateFault?, hierarchyFault?]

def fault? (m : Model) : Option Fault := stages.findSome? fun stage => stage m

def tableWarnings (t : Table) : List Warning :=
  (if t.mode = .directConnection ∧ t.connection = none then [.noResource t.name] else [])
    ++ (if t.mode = .cached ∧ t.columns = [] then [.noColumns t.name] else [])
    ++ (t.measures.filter fun x => t.hasColumn x.name).map fun x =>
      .measureNamedAsColumn x.name t.name

def levelResolves (m : Model) (h : Hierarchy) (level : String) : Bool :=
  match h.table with
  | some t => (m.table? t).any (·.hasColumn level)
  | none => m.tables.any (·.hasColumn level)

def hierarchyWarnings (m : Model) (h : Hierarchy) : List Warning :=
  (h.levels.filter fun l => !levelResolves m h l).map fun l => .levelWithoutColumn h.name l

def roleWarnings (m : Model) (r : Role) : List Warning :=
  (r.permissions.filter fun p => (m.table? p.table).isNone).map fun p =>
    .filterOnUnknownTable r.name p.table

def warnings (m : Model) : List Warning :=
  m.tables.flatMap tableWarnings ++ m.hierarchies.flatMap (hierarchyWarnings m)
    ++ m.roles.flatMap (roleWarnings m)

def validate (m : Model) : Except Fault (List Warning) :=
  match fault? m with
  | some f => .error f
  | none => .ok (warnings m)

end Tabular.Validation

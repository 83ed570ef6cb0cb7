import Tabular.Definition.Line
import Tabular.Text
import Tabular.Validation.Fault
import Tabular.Vocabulary

/-! Reading definition text: what can be read back are the objects, without their prose. A line that stands at the
depth of an object heads a section, which reaches as far as the lines below it stand deeper. Sections are read one
after the other, and the first fault ends the reading. -/
namespace Tabular.Definition
open Text

structure ColumnOutline where
  name : String
  dataType : Option DataType
  deriving DecidableEq, Repr

structure Formula where
  name : String
  expression : String
  deriving DecidableEq, Repr

structure TableOutline where
  name : String
  mode : Option TableMode := none
  columns : List ColumnOutline := []
  measures : List Formula := []
  calculatedColumns : List Formula := []
  deriving DecidableEq, Repr

structure RelationshipOutline where
  name : String
  fromTable : String
  fromColumn : String
  toTable : String
  toColumn : String
  cardinality : Cardinality
  crossFilter : CrossFilter
  isActive : Bool
  deriving DecidableEq, Repr

structure HierarchyOutline where
  name : String
  levels : List String
  deriving DecidableEq, Repr

structure RoleOutline where
  name : String
  permissions : List (String × String)
  members : List String
  deriving DecidableEq, Repr

/-- Tables and roles stand in the order of the references to them, which are kept beside them. -/
structure Outline where
  tables : List TableOutline := []
  measures : List Formula := []
  relationships : List RelationshipOutline := []
  hierarchies : List HierarchyOutline := []
  roles : List RoleOutline := []
  tableRefs : List String := []
  roleRefs : List String := []
  deriving DecidableEq, Repr

structure SourceLine where
  number : Nat
  depth : Nat
  text : List Char
  deriving DecidableEq, Repr

inductive ReadFault where
  | unexpected (line : Nat) (text : String)
  | badName (line : Nat) (text : String)
  | missing (object property : String)
  | unknownWord (word : UnknownWord)
  deriving DecidableEq, Repr

def ReadFault.message : ReadFault → String
  | .unexpected line text => "Line " ++ toString line ++ ": unexpected " ++ quoted text
  | .badName line text => "Line " ++ toString line ++ ": malformed name in " ++ quoted text
  | .missing object property => object ++ " is missing " ++ property
  | .unknownWord word => word.message

def isTab (c : Char) : Bool := c = '\t'

def sourceLine? (number : Nat) (raw : List Char) : Option SourceLine :=
  let kept := trimEnd raw
  match kept.dropWhile isTab with
  | [] => none
  | text => some ⟨number, (kept.takeWhile isTab).length, text⟩

def numberLines (first : Nat) : List (List Char) → List SourceLine
  | [] => []
  | raw :: rest =>
    match sourceLine? first raw with
    | some l => l :: numberLines (first + 1) rest
    | none => numberLines (first + 1) rest

def sourceLines (s : List Char) : List SourceLine := numberLines 1 (lines s)

structure Section where
  head : SourceLine
  body : List SourceLine
  deriving DecidableEq, Repr

def sections (depth : Nat) : List SourceLine → List Section
  | [] => []
  | l :: rest =>
    if l.depth = depth then
      ⟨l, rest.takeWhile fun x => depth < x.depth⟩ :: sections depth rest
    else sections depth rest

def SourceLine.isComment (l : SourceLine) : Bool := ['/', '/', '/'].isPrefixOf l.text

def splitWord (s : List Char) : List Char × List Char :=
  (splitOnce? [' '] s).getD (s, [])

def SourceLine.unexpected (l : SourceLine) : ReadFault :=
  .unexpected l.number (String.ofList l.text)

def readName (l : SourceLine) (s : List Char) : Except ReadFault (String × List Char) :=
  match Name.take? s with
  | some (n, rest) => .ok (String.ofList n, rest)
  | none => .error (.badName l.number (String.ofList l.text))

def bodyLine (depth : Nat) (l : SourceLine) : List Char :=
  List.replicate (l.depth - depth) '\t' ++ l.text

def readFormula (s : Section) (rest : List Char) : Except ReadFault String :=
  match trimStart rest with
  | '=' :: more =>
    match trim more with
    | [] =>
      let depth := s.head.depth + 2
      .ok (String.ofList (joinLines ((s.body.takeWhile fun l => depth ≤ l.depth).map
        (bodyLine depth))))
    | inline => .ok (String.ofList inline)
  | _ => .error s.head.unexpected

def properties (s : Section) : List (List Char × List Char) :=
  (s.body.filter fun l => l.depth = s.head.depth + 1 && !l.isComment).map fun l =>
    match splitOnce? [':', ' '] l.text with
    | some (key, value) => (key, trim value)
    | none => (l.text, [])

def liftWord {α : Type} : Except UnknownWord α → Except ReadFault α
  | .ok v => .ok v
  | .error w => .error (.unknownWord w)

def readLast {α : Type} [Vocabulary α] (key : String) :
    List (List Char × List Char) → Except ReadFault (Option α)
  | [] => .ok none
  | p :: rest =>
    if p.1 = key.toList then do
      let v ← liftWord (Vocabulary.ofToken (String.ofList p.2))
      -- the last one counts, but each of them has to stand for a value
      let later ← readLast key rest
      return later.or (some v)
    else readLast key rest

inductive TablePart where
  | partition (mode : Option TableMode)
  | column (c : ColumnOutline)
  | measure (f : Formula)
  | calculatedColumn (f : Formula)
  deriving DecidableEq, Repr

def readTablePart (s : Section) : Except ReadFault TablePart :=
  let word := splitWord s.head.text
  if word.1 = "partition".toList then do
    let _ ← readName s.head word.2
    return .partition (← readLast "mode" (properties s))
  else if word.1 = "column".toList then do
    let n ← readName s.head word.2
    return .column ⟨n.1, ← readLast "dataType" (properties s)⟩
  else if word.1 = "measure".toList then do
    let n ← readName s.head word.2
    return .measure ⟨n.1, ← readFormula s n.2⟩
  else if word.1 = "calculatedColumn".toList then do
    let n ← readName s.head word.2
    return .calculatedColumn ⟨n.1, ← readFormula s n.2⟩
  else .error s.head.unexpected

def TableOutline.add (t : TableOutline) : TablePart → TableOutline
  | .partition mode => { t with mode := mode.or t.mode }
  | .column c => { t with columns := t.columns ++ [c] }
  | .measure f => { t with measures := t.measures ++ [f] }
  | .calculatedColumn f => { t with calculatedColumns := t.calculatedColumns ++ [f] }

def parts (s : Section) : List Section :=
  (sections (s.head.depth + 1) s.body).filter fun p => !p.head.isComment

def readTable (s : Section) (name : String) : Except ReadFault TableOutline := do
  let found ← (parts s).mapM readTablePart
  return found.foldl TableOutline.add { name }

def required (name : String) (props : List (List Char × List Char)) (key : String) :
    Except ReadFault (List Char) :=
  match props.lookup key.toList with
  | some value => .ok value
  | none => .error (.missing ("relationship " ++ name) key)

def readEndpoint (name : String) (props : List (List Char × List Char)) (key : String) :
    Except ReadFault (String × String) := do
  match Name.decodePair? (← required name props key) with
  | some p => return (String.ofList p.1, String.ofList p.2)
  | none => .error (.missing ("relationship " ++ name) key)

def readRelationship (s : Section) (name : String) : Except ReadFault RelationshipOutline := do
  let props := properties s
  let source ← readEndpoint name props "fromColumn"
  let target ← readEndpoint name props "toColumn"
  let sourceEnd ← required name props "fromCardinality"
  let targetEnd ← required name props "toCardinality"
  let cardinality ← liftWord (Cardinality.ofEnds (String.ofList sourceEnd) (String.ofList targetEnd))
  let filter ← required name props "crossFilteringBehavior"
  let crossFilter ← liftWord (Vocabulary.ofToken (String.ofList filter))
  let isActive := (props.lookup "isActive".toList) != some "false".toList
  return ⟨name, source.1, source.2, target.1, target.2, cardinality, crossFilter, isActive⟩

def readLevel (s : Section) : Except ReadFault (Option String) :=
  let word := splitWord s.head.text
  if word.1 = "level".toList then do
    let n ← readName s.head word.2
    return some n.1
  else .ok none

def readHierarchy (s : Section) (name : String) : Except ReadFault HierarchyOutline := do
  let levels ← (parts s).mapM readLevel
  return ⟨name, levels.filterMap id⟩

inductive RolePart where
  | permission (table filter : String)
  | member (name : String)
  | other
  deriving DecidableEq, Repr

def readRolePart (s : Section) : Except ReadFault RolePart :=
  let word := splitWord s.head.text
  if word.1 = "tablePermission".toList then do
    let n ← readName s.head word.2
    return .permission n.1 (← readFormula s n.2)
  else if word.1 = "member".toList then do
    let n ← readName s.head word.2
    return .member n.1
  else .ok .other

def RoleOutline.add (r : RoleOutline) : RolePart → RoleOutline
  | .permission table filter => { r with permissions := r.permissions ++ [(table, filter)] }
  | .member name => { r with members := r.members ++ [name] }
  | .other => r

def readRole (s : Section) (name : String) : Except ReadFault RoleOutline := do
  let found ← (parts s).mapM readRolePart
  return found.foldl RoleOutline.add ⟨name, [], []⟩

inductive Item where
  | table (t : TableOutline)
  | measure (f : Formula)
  | relationship (r : RelationshipOutline)
  | hierarchy (h : HierarchyOutline)
  | role (r : RoleOutline)
  | tableRef (name : String)
  | roleRef (name : String)
  | other
  deriving DecidableEq, Repr

def readRef (s : Section) (rest : List Char) : Except ReadFault Item := do
  let target := splitWord rest
  let n ← readName s.head target.2
  if target.1 = "table".toList then return .tableRef n.1
  else if target.1 = "role".toList then return .roleRef n.1
  else return .other

def readItem (s : Section) : Except ReadFault Item :=
  let word := splitWord s.head.text
  if word.1 = "table".toList then do
    let n ← readName s.head word.2
    return .table (← readTable s n.1)
  else if word.1 = "measure".toList then do
    let n ← readName s.head word.2
    return .measure ⟨n.1, ← readFormula s n.2⟩
  else if word.1 = "relationship".toList then do
    let n ← readName s.head word.2
    return .relationship (← readRelationship s n.1)
  else if word.1 = "hierarchy".toList then do
    let n ← readName s.head word.2
    return .hierarchy (← readHierarchy s n.1)
  else if word.1 = "role".toList then do
    let n ← readName s.head word.2
    return .role (← readRole s n.1)
  else if word.1 = "ref".toList then readRef s word.2
  else if word.1 = "model".toList || word.1 = "database".toList || word.1 = "expression".toList then
    .ok .other
  else .error s.head.unexpected

def readItems (s : List Char) : Except ReadFault (List Item) :=
  ((sections 0 (sourceLines s)).filter fun p => !p.head.isComment).mapM readItem

/-- Items in the order of the references to their names, items of one name and items without a
reference in their own order, the latter at the end. -/
def sortByRefs {α : Type} (name : α → String) (refs : List String) (items : List α) : List α :=
  (List.range (refs.length + 1)).flatMap fun i =>
    items.filter fun x => refs.idxOf (name x) == i

def tableRefs (items : List Item) : List String :=
  items.filterMap fun | .tableRef n => some n | _ => none

def roleRefs (items : List Item) : List String :=
  items.filterMap fun | .roleRef n => some n | _ => none

def outline (items : List Item) : Outline where
  tables := sortByRefs (·.name) (tableRefs items)
    (items.filterMap fun | .table t => some t | _ => none)
  measures := items.filterMap fun | .measure f => some f | _ => none
  relationships := items.filterMap fun | .relationship r => some r | _ => none
  hierarchies := items.filterMap fun | .hierarchy h => some h | _ => none
  roles := sortByRefs (·.name) (roleRefs items)
    (items.filterMap fun | .role r => some r | _ => none)
  tableRefs := tableRefs items
  roleRefs := roleRefs items

def readChars (s : List Char) : Except ReadFault Outline := do return outline (← readItems s)

def read (s : String) : Except ReadFault Outline := readChars s.toList

end Tabular.Definition

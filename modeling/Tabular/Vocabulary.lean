/-! The closed enumerations of a model. Each value has one token in definition text and one label for
people, and no two values of a kind share either. -/
namespace Tabular

inductive TableMode where
  | directConnection
  | cached
  deriving DecidableEq, Repr

inductive DataType where
  | integer
  | text
  | dateTime
  | currency
  | boolean
  | decimal
  | binary
  deriving DecidableEq, Repr

inductive Cardinality where
  | oneToMany
  | manyToOne
  | oneToOne
  | manyToMany
  deriving DecidableEq, Repr

inductive CrossFilter where
  | single
  | both
  | none
  deriving DecidableEq, Repr

class Vocabulary (α : Type) where
  kind : String
  all : List α
  token : α → String
  label : α → String

structure UnknownWord where
  kind : String
  word : String
  deriving DecidableEq, Repr

namespace Vocabulary

def ofToken {α : Type} [Vocabulary α] (word : String) : Except UnknownWord α :=
  match (all : List α).find? (fun v => token v == word) with
  | some v => .ok v
  | none => .error ⟨kind α, word⟩

def ofLabel {α : Type} [Vocabulary α] (word : String) : Except UnknownWord α :=
  match (all : List α).find? (fun v => label v == word) with
  | some v => .ok v
  | none => .error ⟨kind α, word⟩

end Vocabulary

instance : Vocabulary TableMode where
  kind := "table mode"
  all := [.directConnection, .cached]
  token
    | .directConnection => "directLake"
    | .cached => "import"
  label
    | .directConnection => "DirectLake"
    | .cached => "Import"

instance : Vocabulary DataType where
  kind := "data type"
  all := [.integer, .text, .dateTime, .currency, .boolean, .decimal, .binary]
  token
    | .integer => "int64"
    | .text => "string"
    | .dateTime => "dateTime"
    | .currency => "decimal"
    | .boolean => "boolean"
    | .decimal => "double"
    | .binary => "binary"
  label
    | .integer => "Integer"
    | .text => "Text"
    | .dateTime => "DateTime"
    | .currency => "Currency"
    | .boolean => "Boolean"
    | .decimal => "Decimal"
    | .binary => "Binary"

def Cardinality.ends : Cardinality → String × String
  | .oneToMany => ("one", "many")
  | .manyToOne => ("many", "one")
  | .oneToOne => ("one", "one")
  | .manyToMany => ("many", "many")

instance : Vocabulary Cardinality where
  kind := "cardinality"
  all := [.oneToMany, .manyToOne, .oneToOne, .manyToMany]
  token c := c.ends.1 ++ ":" ++ c.ends.2
  label
    | .oneToMany => "One-to-Many"
    | .manyToOne => "Many-to-One"
    | .oneToOne => "One-to-One"
    | .manyToMany => "Many-to-Many"

def Cardinality.ofEnds (source target : String) : Except UnknownWord Cardinality :=
  Vocabulary.ofToken (source ++ ":" ++ target)

instance : Vocabulary CrossFilter where
  kind := "cross-filter direction"
  all := [.single, .both, .none]
  token
    | .single => "oneDirection"
    | .both => "bothDirections"
    | .none => "none"
  label
    | .single => "Single"
    | .both => "Both"
    | .none => "None"

def TableMode.supportsCalculatedColumns : TableMode → Bool
  | .directConnection => false
  | .cached => true

def TableMode.partitionKind : TableMode → String
  | .directConnection => "entity"
  | .cached => "m"

end Tabular

import Tabular.Model.Basic
import Tabular.Text

/-! The records of a declaration, with the fields of each and their defaults. A format says how it shows texts, flags,
choices, lists and records; what records there are is said once for all formats. -/
namespace Tabular.Declaration

inductive Mismatch where
  | invalidType (found expected : String)
  | invalidValue (found expected : String)
  | invalidLength (length : Nat) (expected : String)
  | missingField (name : String)
  | duplicateField (name : String)
  | unknownVariant (name : String) (known : List String)
  deriving DecidableEq, Repr

def ticked (s : String) : String := "\x60" ++ s ++ "\x60"

def Mismatch.message : Mismatch → String
  | .invalidType found expected => "invalid type: " ++ found ++ ", expected " ++ expected
  | .invalidValue found expected => "invalid value: " ++ found ++ ", expected " ++ expected
  | .invalidLength n expected => "invalid length " ++ toString n ++ ", expected " ++ expected
  | .missingField name => "missing field " ++ ticked name
  | .duplicateField name => "duplicate field " ++ ticked name
  | .unknownVariant name known =>
    "unknown variant " ++ ticked name ++ ", expected one of " ++
      String.intercalate ", " (known.map ticked)

def foundText (s : String) : String := "string " ++ Text.quoted s

def foundFlag (b : Bool) : String := "boolean " ++ ticked (if b then "true" else "false")

structure Field (F : Type → Type) (δ : Type) where
  name : String
  aliases : List String
  required : Bool
  read : F (δ → δ)

def Field.answersTo {F : Type → Type} {δ : Type} (f : Field F δ) (key : String) : Bool :=
  f.name == key || f.aliases.contains key

structure Shape (F : Type → Type) (δ : Type) where
  title : String
  blank : δ
  fields : List (Field F δ)

def Shape.field? {F : Type → Type} {δ : Type} (s : Shape F δ) (key : String) :
    Option (Field F δ) :=
  s.fields.find? fun f => f.answersTo key

def Shape.missing? {F : Type → Type} {δ : Type} (s : Shape F δ) (seen : List String) :
    Option String :=
  (s.fields.find? fun f => f.required && !seen.contains f.name).map (·.name)

class Source (F : Type → Type) where
  map : {α β : Type} → (α → β) → F α → F β
  text : F String
  flag : F Bool
  optional : {α : Type} → F α → F (Option α)
  choice : {α : Type} → List (String × α) → F α
  list : {α : Type} → F α → F (List α)
  record : {δ : Type} → Shape F δ → F δ

variable {F : Type → Type} [Source F]

def must {α δ : Type} (name : String) (read : F α) (put : α → δ → δ) : Field F δ :=
  ⟨name, [], true, Source.map put read⟩

def may {α δ : Type} (name : String) (read : F α) (put : α → δ → δ)
    (aliases : List String := []) : Field F δ :=
  ⟨name, aliases, false, Source.map put read⟩

def note : F (Option String) := Source.optional Source.text

def tableModes : List (String × TableMode) :=
  [("direct_connection", .directConnection), ("direct_lake", .directConnection),
    ("cached", .cached), ("import", .cached)]

def dataTypes : List (String × DataType) :=
  [("integer", .integer), ("text", .text), ("date_time", .dateTime), ("datetime", .dateTime),
    ("currency", .currency), ("boolean", .boolean), ("decimal", .decimal), ("binary", .binary)]

def cardinalities : List (String × Cardinality) :=
  [("one_to_many", .oneToMany), ("many_to_one", .manyToOne), ("one_to_one", .oneToOne),
    ("many_to_many", .manyToMany)]

def crossFilters : List (String × CrossFilter) :=
  [("single", .single), ("both", .both), ("none", .none)]

def column : F Column := Source.record {
  title := "Column"
  blank := { name := "" }
  fields := [
    must "name" Source.text fun v c => { c with name := v },
    may "data_type" (Source.choice dataTypes) (fun v c => { c with dataType := v }) ["dtype"],
    may "description" note fun v c => { c with description := v },
    may "format_string" note fun v c => { c with formatString := v },
    may "is_hidden" Source.flag fun v c => { c with isHidden := v }] }

def calculatedColumn : F CalculatedColumn := Source.record {
  title := "CalculatedColumn"
  blank := { name := "", expression := "" }
  fields := [
    must "name" Source.text fun v c => { c with name := v },
    must "expression" Source.text fun v c => { c with expression := v },
    may "data_type" (Source.choice dataTypes) (fun v c => { c with dataType := v }) ["dtype"],
    may "description" note fun v c => { c with description := v }] }

def measure : F Measure := Source.record {
  title := "Measure"
  blank := { name := "", expression := "" }
  fields := [
    must "name" Source.text fun v m => { m with name := v },
    must "expression" Source.text fun v m => { m with expression := v },
    may "description" note fun v m => { m with description := v },
    may "format_string" note fun v m => { m with formatString := v },
    may "display_folder" note (fun v m => { m with displayFolder := v }) ["folder"],
    may "is_hidden" Source.flag fun v m => { m with isHidden := v },
    may "data_type" (Source.optional (Source.choice dataTypes)) fun v m =>
      { m with dataType := v }] }

def table : F Table := Source.record {
  title := "Table"
  blank := { name := "" }
  fields := [
    must "name" Source.text fun v t => { t with name := v },
    may "schema" note fun v t => { t with schema := v },
    may "mode" (Source.choice tableModes) fun v t => { t with mode := v },
    may "description" note fun v t => { t with description := v },
    may "source" note (fun v t => { t with source := v }) ["source_query"],
    may "connection" note (fun v t => { t with connection := v })
      ["directlake_resource_id", "sql_server"],
    may "columns" (Source.list column) fun v t => { t with columns := v },
    may "calculated_columns" (Source.list calculatedColumn) fun v t =>
      { t with calculatedColumns := v },
    may "measures" (Source.list measure) fun v t => { t with measures := v }] }

def relationship : F Relationship := Source.record {
  title := "Relationship"
  blank := { fromTable := "", fromColumn := "", toTable := "", toColumn := "" }
  fields := [
    must "from_table" Source.text fun v r => { r with fromTable := v },
    must "from_column" Source.text fun v r => { r with fromColumn := v },
    must "to_table" Source.text fun v r => { r with toTable := v },
    must "to_column" Source.text fun v r => { r with toColumn := v },
    may "cardinality" (Source.choice cardinalities) fun v r => { r with cardinality := v },
    may "cross_filter_direction" (Source.choice crossFilters) fun v r =>
      { r with crossFilter := v },
    may "description" note fun v r => { r with description := v },
    may "is_active" Source.flag fun v r => { r with isActive := v }] }

def hierarchy : F Hierarchy := Source.record {
  title := "Hierarchy"
  blank := { name := "", levels := [] }
  fields := [
    must "name" Source.text fun v h => { h with name := v },
    must "levels" (Source.list Source.text) fun v h => { h with levels := v },
    may "table" note fun v h => { h with table := v },
    may "description" note fun v h => { h with description := v }] }

def permission : F TablePermission := Source.record {
  title := "TablePermission"
  blank := { table := "", filter := "" }
  fields := [
    must "table_name" Source.text fun v p => { p with table := v },
    must "filter_expression" Source.text fun v p => { p with filter := v }] }

def role : F Role := Source.record {
  title := "Role"
  blank := { name := "" }
  fields := [
    must "name" Source.text fun v r => { r with name := v },
    may "description" note fun v r => { r with description := v },
    may "table_permissions" (Source.list permission) fun v r => { r with permissions := v },
    may "members" (Source.list Source.text) fun v r => { r with members := v }] }

def model : F Model := Source.record {
  title := "SemanticModel"
  blank := { name := "" }
  fields := [
    must "name" Source.text fun v m => { m with name := v },
    may "description" note fun v m => { m with description := v },
    may "tables" (Source.list table) fun v m => { m with tables := v },
    may "measures" (Source.list measure) fun v m => { m with measures := v },
    may "relationships" (Source.list relationship) fun v m => { m with relationships := v },
    may "hierarchies" (Source.list hierarchy) fun v m => { m with hierarchies := v },
    may "roles" (Source.list role) fun v m => { m with roles := v }] }

end Tabular.Declaration

import Tabular.Text
import Tabular.Vocabulary

/-! Why a model cannot be compiled, and what is merely worth a warning. -/
namespace Tabular.Validation

inductive NameKind where
  | model
  | table
  | column
  | calculatedColumn
  | measure
  | hierarchy
  | level
  | role
  | member
  deriving DecidableEq, Repr

def NameKind.text : NameKind → String
  | .model => "model"
  | .table => "table"
  | .column => "column"
  | .calculatedColumn => "calculated column"
  | .measure => "measure"
  | .hierarchy => "hierarchy"
  | .level => "hierarchy level"
  | .role => "role"
  | .member => "role member"

inductive NameDefect where
  | empty
  | control
  deriving DecidableEq, Repr

def NameDefect.text : NameDefect → String
  | .empty => "name is empty"
  | .control => "name contains control characters"

inductive Property where
  | schema
  | connection
  | source
  | formatString
  | displayFolder
  deriving DecidableEq, Repr

def Property.text : Property → String
  | .schema => "schema"
  | .connection => "connection"
  | .source => "source"
  | .formatString => "format string"
  | .displayFolder => "display folder"

inductive Scope where
  | table
  | column
  | measure
  | role
  deriving DecidableEq, Repr

def Scope.text : Scope → String
  | .table => "table"
  | .column => "column"
  | .measure => "measure"
  | .role => "role"

inductive Fault where
  | invalidName (kind : NameKind) (name : String) (defect : NameDefect)
  | invalidProperty (object : String) (property : Property)
  | incompatibleMode (table column : String)
  | unresolved (context target : String)
  | duplicateName (scope : Scope) (name : String)
  | emptyHierarchy (name : String)
  deriving DecidableEq, Repr

def Fault.message : Fault → String
  | .invalidName kind name defect =>
    "Invalid " ++ kind.text ++ " name " ++ Text.quoted name ++ ": " ++ defect.text
  | .invalidProperty object property =>
    "Invalid " ++ property.text ++ " on " ++ object ++ ": value contains control characters"
  | .incompatibleMode table column =>
    "Table " ++ table ++ " uses DirectConnection mode and cannot contain calculated column "
      ++ column
  | .unresolved context target =>
    "Unresolved reference in " ++ context ++ ": " ++ target ++ " not found"
  | .duplicateName scope name => "Duplicate " ++ scope.text ++ " name: " ++ name
  | .emptyHierarchy name => "Hierarchy " ++ name ++ " has no levels"

inductive Warning where
  | noResource (table : String)
  | noColumns (table : String)
  | measureNamedAsColumn (measure table : String)
  | levelWithoutColumn (hierarchy level : String)
  | filterOnUnknownTable (role table : String)
  deriving DecidableEq, Repr

def Warning.message : Warning → String
  | .noResource table => "table " ++ table ++ " is DirectConnection but declares no resource id"
  | .noColumns table => "table " ++ table ++ " declares no columns"
  | .measureNamedAsColumn measure table =>
    "measure " ++ measure ++ " has the same name as a column in " ++ table
  | .levelWithoutColumn hierarchy level =>
    "hierarchy " ++ hierarchy ++ " level " ++ level ++ " does not match any column"
  | .filterOnUnknownTable role table => "role " ++ role ++ " filters unknown table " ++ table

end Tabular.Validation

namespace Tabular

def UnknownWord.message (u : UnknownWord) : String :=
  "No " ++ u.kind ++ " value defined for token " ++ Text.quoted u.word

end Tabular

import Tabular.Definition.Reading

/-! A table of contents for people, with data types and arrows in line on a display. How many columns of it a text takes
is up to the display. -/
namespace Tabular.Definition
open Vocabulary (label)

section Display
variable (width : String → Nat)

def widest (texts : List String) : Nat := (texts.map width).max?.getD 0

def pad (s : String) (columns : Nat) : String :=
  s ++ String.ofList (List.replicate (columns - width s) ' ')

def labelOr {α : Type} [Vocabulary α] : Option α → String
  | some v => label v
  | none => "?"

def tableSummary (t : TableOutline) : List String :=
  let columns := widest width (t.columns.map (·.name))
  ["table " ++ t.name ++ " (" ++ labelOr t.mode ++ ")"]
    ++ t.columns.map (fun c => "  " ++ pad width c.name columns ++ "  " ++ labelOr c.dataType)
    ++ t.calculatedColumns.map (fun c => "  " ++ c.name ++ "  (calculated)")
    ++ t.measures.map fun m => "  measure " ++ m.name

def endpointText (table column : String) : String := table ++ "[" ++ column ++ "]"

def relationshipSummary (columns : Nat) (r : RelationshipOutline) : String :=
  pad width (endpointText r.fromTable r.fromColumn) columns ++ " -> "
    ++ endpointText r.toTable r.toColumn ++ "  " ++ label r.cardinality ++ " "
    ++ label r.crossFilter ++ if r.isActive then "" else " (inactive)"

def roleSummary (r : RoleOutline) : String :=
  "role " ++ r.name ++ " (" ++ toString r.permissions.length ++ " filters, "
    ++ toString r.members.length ++ " members)"

def summaryLines (d : Outline) : List String :=
  let columns := widest width (d.relationships.map fun r => endpointText r.fromTable r.fromColumn)
  d.tables.flatMap (tableSummary width)
    ++ d.measures.map (fun m => "measure " ++ m.name)
    ++ d.relationships.map (relationshipSummary width columns)
    ++ d.roles.map roleSummary

def summarize (d : Outline) : String :=
  String.ofList ((summaryLines width d).flatMap fun l => l.toList ++ ['\n'])

end Display

end Tabular.Definition

import Tabular.Definition.Line
import Tabular.Model.Basic
import Tabular.Text
import Tabular.Unicode.Lowercase

/-! The lines of each kind of object, and the files they go into, in the order in which these are written. File names
are made from the names of tables, roles and models: they hold no character that some file system refuses, and no two
of them differ in case alone. -/
namespace Tabular.Definition
open Name Text Unicode

structure Options where
  culture : String := "en-US"
  compatibilityLevel : Nat := 1604
  defaultSchema : String := "dbo"
  defaultServer : String := "localhost"
  deriving DecidableEq, Repr

def databaseLines (m : Model) (o : Options) : List Line :=
  [⟨0, "database " ++ quote m.name⟩,
    ⟨1, "compatibilityLevel: " ++ toString o.compatibilityLevel⟩]

def measureLines (depth : Nat) (x : Measure) : List Line :=
  comment depth x.description
    ++ formula depth ("measure " ++ quote x.name) x.expression
    ++ property? (depth + 1) "dataType" (x.dataType.map Vocabulary.token)
    ++ property? (depth + 1) "formatString" x.formatString
    ++ property? (depth + 1) "displayFolder" x.displayFolder
    ++ flag (depth + 1) "isHidden" x.isHidden

def refLines (kind : String) : List String → List Line
  | [] => []
  | names => Line.blank :: names.map fun n => ⟨0, "ref " ++ kind ++ " " ++ quote n⟩

def modelLines (m : Model) (o : Options) : List Line :=
  comment 0 m.description
    ++ [⟨0, "model Model"⟩,
      ⟨1, "culture: " ++ o.culture⟩,
      ⟨1, "defaultPowerBIDataSourceVersion: powerBI_V3"⟩,
      ⟨1, "sourceQueryCulture: " ++ o.culture⟩]
    ++ spaced (m.measures.map (measureLines 0))
    ++ refLines "table" (m.tables.map (·.name))
    ++ refLines "role" (m.roles.map (·.name))

def entityLines (t : Table) (schema : String) : List Line :=
  [⟨2, "source"⟩,
    ⟨3, "entityName: " ++ t.source.getD t.name⟩,
    ⟨3, "schemaName: " ++ schema⟩]
    ++ property? 3 "resourceId" t.connection

def queryLines (t : Table) (server schema : String) : List Line :=
  [⟨2, "source ="⟩,
    ⟨4, "let"⟩,
    ⟨4, "    Source = Sql.Database(" ++ queryLiteral server ++ ", " ++ queryLiteral schema ++ "),"⟩,
    ⟨4, match t.source with
      | some q => "    Data = Value.NativeQuery(Source, "
          ++ String.ofList (queryLiteralChars (trim q.toList)) ++ ")"
      | none => "    Data = Source\x7b[Schema=" ++ queryLiteral schema ++ ",Item="
          ++ queryLiteral t.name ++ "]\x7d[Data]"⟩,
    ⟨4, "in"⟩,
    ⟨4, "    Data"⟩]

def partitionLines (t : Table) (o : Options) : List Line :=
  let schema := t.schema.getD o.defaultSchema
  [⟨1, "partition " ++ quote t.name ++ " = " ++ t.mode.partitionKind⟩,
    ⟨2, "mode: " ++ Vocabulary.token t.mode⟩]
    ++ match t.mode with
      | .directConnection => entityLines t schema
      | .cached => queryLines t (t.connection.getD o.defaultServer) schema

def columnLines (c : Column) : List Line :=
  comment 1 c.description
    ++ [⟨1, "column " ++ quote c.name⟩, ⟨2, "dataType: " ++ Vocabulary.token c.dataType⟩]
    ++ property? 2 "formatString" c.formatString
    ++ flag 2 "isHidden" c.isHidden
    ++ [⟨2, "summarizeBy: none"⟩, ⟨2, "sourceColumn: " ++ c.name⟩]

def calculatedColumnLines (c : CalculatedColumn) : List Line :=
  comment 1 c.description
    ++ formula 1 ("calculatedColumn " ++ quote c.name) c.expression
    ++ [⟨2, "dataType: " ++ Vocabulary.token c.dataType⟩, ⟨2, "summarizeBy: none"⟩]

def tableLines (t : Table) (o : Options) : List Line :=
  comment 0 t.description
    ++ [⟨0, "table " ++ quote t.name⟩]
    ++ spaced ([partitionLines t o] ++ t.columns.map columnLines
      ++ t.measures.map (measureLines 1)
      ++ if t.mode.supportsCalculatedColumns then t.calculatedColumns.map calculatedColumnLines
        else [])

def relationshipCandidate (r : Relationship) : Nat → String
  | 0 => r.fromTable ++ "." ++ r.fromColumn ++ " -> " ++ r.toTable ++ "." ++ r.toColumn
  | k + 1 => relationshipCandidate r 0 ++ " \x23" ++ String.ofList (decimal (k + 2))

def relationshipNames (rs : List Relationship) : List String :=
  claimAll id relationshipCandidate [] rs

def relationshipLines (name : String) (r : Relationship) : List Line :=
  comment 0 r.description
    ++ [⟨0, "relationship " ++ quote name⟩,
      ⟨1, "fromColumn: " ++ qualified r.fromTable r.fromColumn⟩,
      ⟨1, "toColumn: " ++ qualified r.toTable r.toColumn⟩,
      ⟨1, "fromCardinality: " ++ r.cardinality.ends.1⟩,
      ⟨1, "toCardinality: " ++ r.cardinality.ends.2⟩,
      ⟨1, "crossFilteringBehavior: " ++ Vocabulary.token r.crossFilter⟩]
    ++ flag 1 "isActive: false" (!r.isActive)

def hierarchyLines (h : Hierarchy) : List Line :=
  comment 0 h.description
    ++ [⟨0, "hierarchy " ++ quote h.name⟩]
    ++ property? 1 "table" (h.table.map quote)
    ++ h.levels.map fun l => ⟨1, "level " ++ quote l⟩

def memberLines : List String → List Line
  | [] => []
  | members => Line.blank :: members.map fun m => ⟨1, "member " ++ quote m⟩

def roleLines (r : Role) : List Line :=
  comment 0 r.description
    ++ [⟨0, "role " ++ quote r.name⟩, ⟨1, "modelPermission: read"⟩]
    ++ spaced (r.permissions.map fun p =>
      formula 1 ("tablePermission " ++ quote p.table) p.filter)
    ++ memberLines r.members

def isForbidden (c : Char) : Bool :=
  c = '<' || c = '>' || c = ':' || c = '\x22' || c = '/' || c = '\\' || c = '|' || c = '?' ||
    c = '*' || isControl c

def stemChars (name : List Char) : List Char :=
  match dropEndWhile (· = '.') (trim (name.map fun c => if isForbidden c then '_' else c)) with
  | [] => ['_']
  | stem => stem

def fileStem (name : String) : String := String.ofList (stemChars name.toList)

def stemCandidate (name : String) : Nat → List Char
  | 0 => stemChars name.toList
  | k + 1 => stemChars name.toList ++ '_' :: decimal (k + 2)

def uniqueStems (names : List String) : List String :=
  (claimAll lower stemCandidate [] names).map String.ofList

structure File where
  path : String
  contents : String
  deriving DecidableEq, Repr

def file? (path : String) : List (List Line) → List File
  | [] => []
  | blocks => [⟨path, render (separated blocks)⟩]

def tableFiles (m : Model) (o : Options) : List File :=
  List.zipWith (fun stem t => ⟨"definition/tables/" ++ stem ++ ".tmdl", render (tableLines t o)⟩)
    (uniqueStems (m.tables.map (·.name))) m.tables

def roleFiles (m : Model) : List File :=
  List.zipWith (fun stem r => ⟨"definition/roles/" ++ stem ++ ".tmdl", render (roleLines r)⟩)
    (uniqueStems (m.roles.map (·.name))) m.roles

def relationshipBlocks (rs : List Relationship) : List (List Line) :=
  List.zipWith relationshipLines (relationshipNames rs) rs

def files (m : Model) (o : Options) : List File :=
  [⟨"definition/database.tmdl", render (databaseLines m o)⟩,
    ⟨"definition/model.tmdl", render (modelLines m o)⟩]
    ++ tableFiles m o
    ++ file? "definition/relationships.tmdl" (relationshipBlocks m.relationships)
    ++ file? "definition/hierarchies.tmdl" (m.hierarchies.map hierarchyLines)
    ++ roleFiles m

def joinFiles (fs : List File) : String :=
  String.ofList (Text.joinLines (fs.map fun f => f.contents.toList))

end Tabular.Definition

import Tabular.Proofs.Definition.Document
import Tabular.Proofs.Definition.Rows

/-! Carriage returns that are written. Descriptions and formulas are cut into lines at line feeds only, so a carriage
return inside one of their lines is written as it is. Nothing else brings one into the text: names and property
values may not hold any, and a query spells them out. -/
namespace Tabular.Definition
open Text Unicode Name Validation

def NoReturn (s : List Char) : Prop := '\r' ∉ s
instance (s) : Decidable (NoReturn s) := @instDecidableNot _ (List.instDecidableMemOfLawfulBEq '\r' s)

theorem returnAppend {a b : String} : NoReturn (a ++ b).toList ↔ NoReturn a.toList ∧ NoReturn b.toList := by
  simp [NoReturn]

def Whole (ls : List Line) : Prop := ∀ l ∈ ls, NoReturn l.text.toList

theorem wholeNil : Whole [] := by simp [Whole]

theorem wholeCons {depth : Nat} {text : String} {ls : List Line} :
    Whole (⟨depth, text⟩ :: ls) ↔ NoReturn text.toList ∧ Whole ls :=
  List.forall_mem_cons

theorem wholeBlank {ls : List Line} (whole : Whole ls) : Whole (Line.blank :: ls) :=
  wholeCons.mpr ⟨by decide, whole⟩

theorem wholeAppend {as bs : List Line} : Whole (as ++ bs) ↔ Whole as ∧ Whole bs := List.forall_mem_append

/-- What is written for prose of these lines: nothing else in it holds a carriage return, and no line ends in
one. -/
structure Carries (ls : List Line) (prose : List (List Char)) : Prop where
  ends : ∀ l ∈ ls, l.text.toList.getLast? ≠ some '\r'
  returns : Whole ls ↔ ∀ p ∈ prose, NoReturn p

namespace Carries
variable {as bs : List Line} {ps qs : List (List Char)}

theorem plain (whole : Whole as) : Carries as [] :=
  ⟨fun l mem last => whole l mem (List.mem_of_getLast? last), iff_of_true whole (by simp)⟩

theorem append (left : Carries as ps) (right : Carries bs qs) : Carries (as ++ bs) (ps ++ qs) := by
  constructor
  · exact List.forall_mem_append.mpr ⟨left.ends, right.ends⟩
  · rw [wholeAppend, List.forall_mem_append, left.returns, right.returns]

theorem behind (left : Carries as ps) (whole : Whole bs) : Carries (as ++ bs) ps := by
  have both := left.append (.plain whole)
  rwa [List.append_nil] at both

theorem inFront (whole : Whole as) (right : Carries bs qs) : Carries (as ++ bs) qs :=
  (plain whole).append right

theorem flatMap {α : Type} {xs : List α} {f : α → List Line} {g : α → List (List Char)}
    (each : ∀ x ∈ xs, Carries (f x) (g x)) : Carries (xs.flatMap f) (xs.flatMap g) := by
  induction xs with
  | nil => exact .plain wholeNil
  | cons x xs ih =>
    obtain ⟨first, rest⟩ := List.forall_mem_cons.mp each
    exact first.append (ih rest)

theorem map {α : Type} {xs : List α} {f : α → Line} {g : α → List Char} (each : ∀ x ∈ xs, Carries [f x] [g x]) :
    Carries (xs.map f) (xs.map g) := by
  rw [List.map_eq_flatMap, List.map_eq_flatMap]
  exact .flatMap each

theorem block (below : Carries bs qs) : Carries (Line.blank :: bs) qs := by
  have blank : Whole [Line.blank] := wholeBlank wholeNil
  exact below.inFront blank

theorem spaced {α : Type} {xs : List α} {f : α → List Line} {g : α → List (List Char)}
    (each : ∀ x ∈ xs, Carries (f x) (g x)) : Carries (Definition.spaced (xs.map f)) (xs.flatMap g) := by
  rw [Definition.spaced, List.flatMap_map]
  exact .flatMap fun x mem => (each x mem).block

end Carries

theorem lineCarries {depth : Nat} {text : String} {front line : List Char} (split : text.toList = front ++ line)
    (whole : NoReturn front) (ends : EndsFilled line) : Carries [⟨depth, text⟩] [line] := by
  constructor
  · rw [List.forall_mem_singleton, split, List.getLast?_append]
    intro last
    rcases Option.or_eq_some_iff.mp last with here | ⟨_, before⟩
    · have filled := ends _ here
      revert filled
      decide
    · exact whole (List.mem_of_getLast? before)
  · rw [Whole, List.forall_mem_singleton, List.forall_mem_singleton, split]
    simp only [NoReturn, List.mem_append, not_or] at whole ⊢
    exact and_iff_right whole

theorem commentCarries (depth : Nat) (d : Option String) : Carries (comment depth d) (describedLines d) := by
  cases d with
  | none => exact .plain wholeNil
  | some d =>
    refine .map fun l _ => ?_
    by_cases empty : trimEnd l = []
    · have text : (commentText l).toList = "///".toList ++ trimEnd l := by
        rw [commentTextRow, empty, commentRow, if_pos rfl]
      exact lineCarries text (by decide) (trimEndEnds l)
    · have text : (commentText l).toList = "/// ".toList ++ trimEnd l := by
        rw [commentTextRow, commentRow, if_neg empty]
        rfl
      exact lineCarries text (by decide) (trimEndEnds l)

theorem formulaCarries {depth : Nat} {header : String} (whole : NoReturn header.toList) (e : String) :
    Carries (formula depth header e) (Expression.normalLines e.toList) := by
  have ends : ∀ l ∈ Expression.normalLines e.toList, EndsFilled l := fun l mem => (Expression.normalLinesText mem).ends
  have sign (tail : String) (plain : NoReturn tail.toList) : NoReturn (header ++ tail).toList :=
    returnAppend.mpr ⟨whole, plain⟩
  have head : Carries [⟨depth, header ++ " ="⟩] [] :=
    .plain (wholeCons.mpr ⟨sign " =" (by decide), wholeNil⟩)
  unfold formula
  generalize Expression.normalLines e.toList = body at ends
  split
  · exact head
  · exact lineCarries (by simp) (sign " = " (by decide)) (List.forall_mem_singleton.mp ends)
  · have lines : Carries (body.map fun l => ⟨depth + 2, String.ofList l⟩) (body.map id) :=
      .map fun l mem => lineCarries (String.toList_ofList : _ = [] ++ l) (by decide) (ends l mem)
    rw [List.map_id] at lines
    exact head.append lines

theorem plainReturn {s : String} (plain : Plain s) : NoReturn s.toList := fun mem => by
  have free := plain '\r' mem
  revert free
  decide

theorem solidReturn {s : List Char} (solid : Solid s) : NoReturn s := fun mem => by
  have filled := solid.2 '\r' mem
  revert filled
  decide

theorem encodeReturn {n : String} (whole : NoReturn n.toList) : NoReturn (quote n).toList := by
  rw [quote, String.toList_ofList]
  intro mem
  rcases encodeMem mem with inside | mark
  · exact whole inside
  · revert mark
    decide

theorem quoteReturn {n : String} (legal : LegalName n) : NoReturn (quote n).toList :=
  encodeReturn (plainReturn legal.2)

theorem literalReturn (v : List Char) : NoReturn (queryLiteralChars v) := fun mem => by
  have whole := literalSolid v _ mem
  contradiction

theorem propertyReturn {depth : Nat} {key : String} {value : Option String} (word : NoReturn key.toList)
    (plain : ∀ v ∈ value, NoReturn v.toList) : Whole (property? depth key value) := by
  cases value with
  | none => exact wholeNil
  | some v =>
    simp only [property?, wholeCons, returnAppend]
    exact ⟨⟨⟨word, by decide⟩, plain v rfl⟩, wholeNil⟩

theorem flagReturn {depth : Nat} {key : String} {on : Bool} (word : NoReturn key.toList) :
    Whole (flag depth key on) := by
  cases on with
  | false => exact wholeNil
  | true => exact wholeCons.mpr ⟨word, wholeNil⟩

theorem namesReturn {depth : Nat} {front : String} {names : List String} (word : NoReturn front.toList)
    (legal : ∀ n ∈ names, LegalName n) : Whole (names.map fun n => ⟨depth, front ++ quote n⟩) := by
  intro l mem
  obtain ⟨n, named, rfl⟩ := List.mem_map.mp mem
  exact returnAppend.mpr ⟨word, quoteReturn (legal n named)⟩

def measureProse (x : Measure) : List (List Char) :=
  describedLines x.description ++ Expression.normalLines x.expression.toList

def calculatedColumnProse (c : CalculatedColumn) : List (List Char) :=
  describedLines c.description ++ Expression.normalLines c.expression.toList

def tableProse (t : Table) : List (List Char) :=
  describedLines t.description ++ (t.columns.flatMap (fun c => describedLines c.description)
    ++ t.measures.flatMap measureProse ++ t.calculatedColumns.flatMap calculatedColumnProse)

def roleProse (r : Role) : List (List Char) :=
  describedLines r.description ++ r.permissions.flatMap fun p => Expression.normalLines p.filter.toList

/-- The lines of all descriptions and of the normal forms of all formulas. -/
def prose (m : Model) : List (List Char) :=
  describedLines m.description ++ m.measures.flatMap measureProse ++ m.tables.flatMap tableProse
    ++ m.relationships.flatMap (fun r => describedLines r.description)
    ++ m.hierarchies.flatMap (fun h => describedLines h.description) ++ m.roles.flatMap roleProse

theorem measureCarries {depth : Nat} {x : Measure} (name : LegalName x.name) (values : LegalMeasureValues x) :
    Carries (measureLines depth x) (measureProse x) := by
  have header : NoReturn ("measure " ++ quote x.name).toList := returnAppend.mpr ⟨by decide, quoteReturn name⟩
  have type : ∀ v ∈ x.dataType.map Vocabulary.token, NoReturn v.toList := by
    intro v mem
    obtain ⟨word, _, rfl⟩ := Option.map_eq_some_iff.mp mem
    exact solidReturn (dataTypesSpelled.solid word)
  exact (commentCarries depth x.description).append (formulaCarries header x.expression)
    |>.behind (propertyReturn (by decide) type)
    |>.behind (propertyReturn (by decide) fun v mem => plainReturn (values.formatString v mem))
    |>.behind (propertyReturn (by decide) fun v mem => plainReturn (values.displayFolder v mem))
    |>.behind (flagReturn (by decide))

theorem columnCarries {c : Column} (name : LegalName c.name) (format : ∀ v ∈ c.formatString, Plain v) :
    Carries (columnLines c) (describedLines c.description) := by
  have head : Whole [⟨1, "column " ++ quote c.name⟩, ⟨2, "dataType: " ++ Vocabulary.token c.dataType⟩] := by
    simp only [wholeCons, returnAppend]
    exact ⟨⟨by decide, quoteReturn name⟩, ⟨by decide, solidReturn (dataTypesSpelled.solid _)⟩, wholeNil⟩
  have source : Whole [⟨2, "summarizeBy: none"⟩, ⟨2, "sourceColumn: " ++ c.name⟩] := by
    simp only [wholeCons, returnAppend]
    exact ⟨by decide, ⟨by decide, plainReturn name.2⟩, wholeNil⟩
  exact (commentCarries 1 c.description).behind head
    |>.behind (propertyReturn (by decide) fun v mem => plainReturn (format v mem))
    |>.behind (flagReturn (by decide))
    |>.behind source

theorem calculatedColumnCarries {c : CalculatedColumn} (name : LegalName c.name) :
    Carries (calculatedColumnLines c) (calculatedColumnProse c) := by
  have header : NoReturn ("calculatedColumn " ++ quote c.name).toList :=
    returnAppend.mpr ⟨by decide, quoteReturn name⟩
  have rest : Whole [⟨2, "dataType: " ++ Vocabulary.token c.dataType⟩, ⟨2, "summarizeBy: none"⟩] := by
    simp only [wholeCons, returnAppend]
    exact ⟨⟨by decide, solidReturn (dataTypesSpelled.solid _)⟩, by decide, wholeNil⟩
  exact (commentCarries 1 c.description).append (formulaCarries header c.expression) |>.behind rest

theorem entityReturn {t : Table} {schema : String} (name : LegalName t.name) (plain : NoReturn schema.toList)
    (entity : ∀ v ∈ t.source, Plain v) (connection : ∀ v ∈ t.connection, Plain v) :
    Whole (entityLines t schema) := by
  have source : NoReturn (t.source.getD t.name).toList := by
    cases h : t.source with
    | none => exact plainReturn name.2
    | some v => exact plainReturn (entity v h)
  have head : Whole [⟨2, "source"⟩, ⟨3, "entityName: " ++ t.source.getD t.name⟩, ⟨3, "schemaName: " ++ schema⟩] := by
    simp only [wholeCons, returnAppend]
    exact ⟨by decide, ⟨by decide, source⟩, ⟨by decide, plain⟩, wholeNil⟩
  exact List.forall_mem_append.mpr
    ⟨head, propertyReturn (by decide) fun v mem => plainReturn (connection v mem)⟩

theorem queryReturn (t : Table) (server schema : String) : Whole (queryLines t server schema) := by
  have literal (v : String) : NoReturn (queryLiteral v).toList := by
    rw [queryLiteral, String.toList_ofList]
    exact literalReturn v.toList
  have source : NoReturn ("    Source = Sql.Database(" ++ queryLiteral server ++ ", " ++ queryLiteral schema
      ++ "),").toList := by
    simp only [returnAppend]
    exact ⟨⟨⟨⟨by decide, literal _⟩, by decide⟩, literal _⟩, by decide⟩
  unfold queryLines
  cases t.source with
  | none =>
    simp only [wholeCons]
    refine ⟨by decide, by decide, source, ?_, by decide, by decide, wholeNil⟩
    simp only [returnAppend]
    exact ⟨⟨⟨⟨by decide, literal _⟩, by decide⟩, literal _⟩, by decide⟩
  | some q =>
    simp only [wholeCons]
    refine ⟨by decide, by decide, source, ?_, by decide, by decide, wholeNil⟩
    simp only [returnAppend, String.toList_ofList]
    exact ⟨⟨by decide, literalReturn _⟩, by decide⟩

theorem partitionReturn {t : Table} {o : Options} (name : LegalName t.name) (values : LegalTableValues t)
    (schema : Plain o.defaultSchema) : Whole (partitionLines t o) := by
  have head : Whole [⟨1, "partition " ++ quote t.name ++ " = " ++ t.mode.partitionKind⟩,
      ⟨2, "mode: " ++ Vocabulary.token t.mode⟩] := by
    have kind : NoReturn t.mode.partitionKind.toList := by cases t.mode <;> decide
    simp only [wholeCons, returnAppend]
    have token := solidReturn (modesSpelled.solid t.mode)
    exact ⟨⟨⟨⟨by decide, quoteReturn name⟩, by decide⟩, kind⟩, ⟨by decide, token⟩, wholeNil⟩
  refine List.forall_mem_append.mpr ⟨head, ?_⟩
  cases mode : t.mode with
  | directConnection =>
    have plain : NoReturn (t.schema.getD o.defaultSchema).toList := by
      cases h : t.schema with
      | none => exact plainReturn schema
      | some v => exact plainReturn (values.schema v h)
    exact entityReturn name plain (values.entity mode) values.connection
  | cached => exact queryReturn t _ _

theorem tableCarries {t : Table} {o : Options} (names : LegalTableNames t) (values : LegalTableValues t)
    (measures : ∀ x ∈ t.measures, LegalMeasureValues x)
    (modes : t.mode = .directConnection → t.calculatedColumns = []) (schema : Plain o.defaultSchema) :
    Carries (tableLines t o) (tableProse t) := by
  have partition : Whole (spaced [partitionLines t o]) :=
    wholeAppend.mpr ⟨wholeBlank (partitionReturn names.table values schema), wholeNil⟩
  have head : Whole [⟨0, "table " ++ quote t.name⟩] := by
    simp only [wholeCons, returnAppend]
    exact ⟨⟨by decide, quoteReturn names.table⟩, wholeNil⟩
  have parts : Carries (spaced (partBlocks t o)) (t.columns.flatMap (fun c => describedLines c.description)
      ++ t.measures.flatMap measureProse ++ t.calculatedColumns.flatMap calculatedColumnProse) := by
    rw [partBlocks, spacedAppend, spacedAppend, spacedAppend]
    exact Carries.inFront partition (.spaced fun c mem => columnCarries (names.columns c mem) (values.columns c mem))
      |>.append (.spaced fun x mem => measureCarries (names.measures x mem) (measures x mem))
      |>.append (.spaced fun c mem => calculatedColumnCarries (names.calculatedColumns c mem))
  rw [tableLinesParts o modes]
  exact (commentCarries 0 t.description).append (parts.inFront head)

structure LegalEnds (r : Relationship) : Prop where
  source : LegalName r.fromTable ∧ LegalName r.fromColumn
  target : LegalName r.toTable ∧ LegalName r.toColumn

theorem candidateReturn {r : Relationship} (ends : LegalEnds r) (k : Nat) :
    NoReturn (relationshipCandidate r k).toList := by
  have name (n : String) (legal : LegalName n) : NoReturn n.toList := plainReturn legal.2
  have first : NoReturn (relationshipCandidate r 0).toList := by
    simp only [relationshipCandidate, returnAppend]
    exact ⟨⟨⟨⟨⟨⟨name _ ends.source.1, by decide⟩, name _ ends.source.2⟩, by decide⟩, name _ ends.target.1⟩,
      by decide⟩, name _ ends.target.2⟩
  cases k with
  | zero => exact first
  | succ k =>
    have number : NoReturn (decimal (k + 2)) := solidReturn (decimalSolid (k + 2))
    simp only [relationshipCandidate, returnAppend, String.toList_ofList] at first ⊢
    exact ⟨⟨first, by decide⟩, number⟩

theorem relationshipCarries {name : String} {r : Relationship} (named : NoReturn name.toList) (ends : LegalEnds r) :
    Carries (relationshipLines name r) (describedLines r.description) := by
  have quoted : NoReturn (quote name).toList := encodeReturn named
  have pair {table column : String} (legal : LegalName table ∧ LegalName column) :
      NoReturn (qualified table column).toList := by
    have split : qualified table column = quote table ++ "." ++ quote column := by
      simp [qualified, encodePair, quote, ← String.toList_inj]
    simp only [split, returnAppend]
    exact ⟨⟨quoteReturn legal.1, by decide⟩, quoteReturn legal.2⟩
  have cardinality := endsSolid r.cardinality
  have lines : Whole [⟨0, "relationship " ++ quote name⟩, ⟨1, "fromColumn: " ++ qualified r.fromTable r.fromColumn⟩,
      ⟨1, "toColumn: " ++ qualified r.toTable r.toColumn⟩, ⟨1, "fromCardinality: " ++ r.cardinality.ends.1⟩,
      ⟨1, "toCardinality: " ++ r.cardinality.ends.2⟩,
      ⟨1, "crossFilteringBehavior: " ++ Vocabulary.token r.crossFilter⟩] := by
    simp only [wholeCons, returnAppend]
    exact ⟨⟨by decide, quoted⟩, ⟨by decide, pair ends.source⟩, ⟨by decide, pair ends.target⟩,
      ⟨by decide, solidReturn cardinality.1⟩, ⟨by decide, solidReturn cardinality.2⟩,
      ⟨by decide, solidReturn (filtersSpelled.solid _)⟩, wholeNil⟩
  exact (commentCarries 0 r.description).behind lines |>.behind (flagReturn (by decide))

theorem hierarchyCarries {h : Hierarchy} (name : LegalName h.name) (levels : ∀ l ∈ h.levels, LegalName l)
    (table : ∀ n ∈ h.table, LegalName n) : Carries (hierarchyLines h) (describedLines h.description) := by
  have head : Whole [⟨0, "hierarchy " ++ quote h.name⟩] := by
    simp only [wholeCons, returnAppend]
    exact ⟨⟨by decide, quoteReturn name⟩, wholeNil⟩
  have owner : ∀ v ∈ h.table.map quote, NoReturn v.toList := by
    intro v mem
    obtain ⟨n, found, rfl⟩ := Option.map_eq_some_iff.mp mem
    exact quoteReturn (table n found)
  exact (commentCarries 0 h.description).behind head
    |>.behind (propertyReturn (by decide) owner)
    |>.behind (namesReturn (by decide) levels)

theorem roleCarries {r : Role} (names : LegalRoleNames r) : Carries (roleLines r) (roleProse r) := by
  have head : Whole [⟨0, "role " ++ quote r.name⟩, ⟨1, "modelPermission: read"⟩] := by
    simp only [wholeCons, returnAppend]
    exact ⟨⟨by decide, quoteReturn names.role⟩, by decide, wholeNil⟩
  have permissions : Carries
      (spaced (r.permissions.map fun p => formula 1 ("tablePermission " ++ quote p.table) p.filter))
      (r.permissions.flatMap fun p => Expression.normalLines p.filter.toList) := by
    refine .spaced fun p mem => formulaCarries ?_ p.filter
    exact returnAppend.mpr ⟨by decide, quoteReturn (names.permissions p mem)⟩
  have members : Whole (memberLines r.members) := by
    unfold memberLines
    split
    · exact wholeNil
    · exact wholeBlank (namesReturn (by decide) names.members)
  exact (commentCarries 0 r.description).behind head |>.append permissions |>.behind members

theorem refsReturn {kind : String} {names : List String} (word : NoReturn kind.toList)
    (legal : ∀ n ∈ names, LegalName n) : Whole (refLines kind names) := by
  unfold refLines
  split
  · exact wholeNil
  · refine wholeBlank (namesReturn ?_ legal)
    simp only [returnAppend]
    exact ⟨⟨by decide, word⟩, by decide⟩

theorem modelCarries {m : Model} {o : Options} (names : LegalNames m) (values : LegalValues m)
    (culture : Plain o.culture) :
    Carries (modelLines m o) (describedLines m.description ++ m.measures.flatMap measureProse) := by
  have head : Whole (modelHead o) := by
    have plain := plainReturn culture
    simp only [modelHead, wholeCons, returnAppend]
    exact ⟨by decide, ⟨by decide, plain⟩, by decide, ⟨by decide, plain⟩, wholeNil⟩
  have tables : ∀ n ∈ m.tables.map (·.name), LegalName n :=
    List.forall_mem_map.mpr fun t mem => (names.tables t mem).table
  have roles : ∀ n ∈ m.roles.map (·.name), LegalName n :=
    List.forall_mem_map.mpr fun r mem => (names.roles r mem).role
  exact (commentCarries 0 m.description).behind head
    |>.append (.spaced fun x mem => measureCarries (names.measures x mem) (values.measures x mem))
    |>.behind (refsReturn (by decide) tables)
    |>.behind (refsReturn (by decide) roles)

theorem databaseReturn {m : Model} (o : Options) (legal : LegalName m.name) : Whole (databaseLines m o) := by
  have level : Solid (toString o.compatibilityLevel).toList := by
    rw [Nat.toString_eq_ofList_toDigits, String.toList_ofList]
    exact decimalSolid o.compatibilityLevel
  simp only [databaseLines, wholeCons, returnAppend]
  exact ⟨⟨by decide, quoteReturn legal⟩, ⟨by decide, solidReturn level⟩, wholeNil⟩

theorem relationshipBlocksCarry {rs : List Relationship} (ends : ∀ r ∈ rs, LegalEnds r) :
    Carries (spaced (relationshipBlocks rs)) (rs.flatMap fun r => describedLines r.description) := by
  have named := relationshipNamesFrom rs
  unfold relationshipBlocks
  generalize relationshipNames rs = names at named ⊢
  induction named with
  | nil => exact .plain wholeNil
  | cons first rest ih =>
    obtain ⟨k, rfl⟩ := first
    obtain ⟨head, tail⟩ := List.forall_mem_cons.mp ends
    exact (relationshipCarries (candidateReturn head k) head).block.append (ih tail)

theorem textCarries {m : Model} {o : Options} (legal : Legal m) (culture : Plain o.culture)
    (schema : Plain o.defaultSchema) : Carries (textLines m o) (prose m) := by
  have model : Carries (spaced [modelLines m o]) (describedLines m.description ++ m.measures.flatMap measureProse) := by
    have block := (modelCarries legal.names legal.values culture).block
    rwa [← List.append_nil (Line.blank :: modelLines m o)] at block
  have tables : Carries (spaced (m.tables.map fun t => tableLines t o)) (m.tables.flatMap tableProse) :=
    .spaced fun t mem => tableCarries (legal.names.tables t mem) (legal.values.tables t mem)
      (legal.values.tableMeasures t mem) (legal.modes t mem) schema
  have relationships : Carries (spaced (relationshipBlocks m.relationships))
      (m.relationships.flatMap fun r => describedLines r.description) :=
    relationshipBlocksCarry fun r mem =>
      ⟨declaredLegal legal.names (legal.endpoints r mem).1, declaredLegal legal.names (legal.endpoints r mem).2⟩
  have hierarchies : Carries (spaced (m.hierarchies.map hierarchyLines))
      (m.hierarchies.flatMap fun h => describedLines h.description) := by
    refine .spaced fun h mem => hierarchyCarries (legal.names.hierarchies h mem) (legal.names.levels h mem) ?_
    intro n owner
    obtain ⟨t, member, rfl⟩ := (legal.hierarchies h mem).table n owner
    exact (legal.names.tables t member).table
  have roles : Carries (spaced (m.roles.map roleLines)) (m.roles.flatMap roleProse) :=
    .spaced fun r mem => roleCarries (legal.names.roles r mem)
  rw [textLines, spacedAppend, spacedAppend, spacedAppend, spacedAppend]
  exact ((((model.append tables).append relationships).append hierarchies).append roles).inFront
    (databaseReturn o legal.names.model)

end Tabular.Definition

import Tabular.Proofs.Definition.Document
import Tabular.Proofs.Definition.Rows

/-! What definition text shows of an object, and that the rows of the object tell it. Left out are the
blanks around descriptions and queries, the layout of formulas, and whether a default was named or meant. -/
namespace Tabular.Definition
open Text Name Validation

/-- No description counts as an empty one. -/
def shownText (d : Option String) : Option String := some (String.ofList (joinLines (describedLines d)))

def shownColumn (c : Column) : Column := { c with description := shownText c.description, owner := none }

def shownCalculatedColumn (c : CalculatedColumn) : CalculatedColumn :=
  { c with
    expression := Expression.normalize c.expression, description := shownText c.description, owner := none }

def shownMeasure (x : Measure) : Measure :=
  { x with
    expression := Expression.normalize x.expression, description := shownText x.description, owner := none }

/-- The source of a direct connection is an entity, and that of a cached table a query. -/
def shownTable (o : Options) (t : Table) : Table where
  name := t.name
  schema := some (t.schema.getD o.defaultSchema)
  mode := t.mode
  description := shownText t.description
  source := match t.mode with
    | .directConnection => some (t.source.getD t.name)
    | .cached => t.source.map fun q => String.ofList (trim q.toList)
  connection := match t.mode with
    | .directConnection => t.connection
    | .cached => some (t.connection.getD o.defaultServer)
  columns := t.columns.map shownColumn
  calculatedColumns := t.calculatedColumns.map shownCalculatedColumn
  measures := t.measures.map shownMeasure

def shownRelationship (r : Relationship) : Relationship := { r with description := shownText r.description }

def shownHierarchy (h : Hierarchy) : Hierarchy := { h with description := shownText h.description }

def shownPermission (p : TablePermission) : TablePermission :=
  { p with filter := Expression.normalize p.filter }

def shownRole (r : Role) : Role :=
  { r with description := shownText r.description, permissions := r.permissions.map shownPermission }

def shown (o : Options) (m : Model) : Model where
  name := m.name
  description := shownText m.description
  tables := m.tables.map (shownTable o)
  measures := m.measures.map shownMeasure
  relationships := m.relationships.map shownRelationship
  hierarchies := m.hierarchies.map shownHierarchy
  roles := m.roles.map shownRole

theorem shownTextApart {d e : Option String}
    (same : (describedLines d).map commentRow = (describedLines e).map commentRow) :
    shownText d = shownText e := by
  rw [shownText, shownText, commentApart same]

theorem Spelled.tokenInjective {β : Type} [Vocabulary β] (spelled : Spelled β) {v w : β}
    (same : Vocabulary.token v = Vocabulary.token w) : v = w := by
  have known := spelled.back v
  rw [same, spelled.back w] at known
  exact (Except.ok.inj known).symm

def columnMarks : List (List Char) :=
  [mark 1 "///", mark 1 "column ", mark 2 "dataType: ", mark 2 "formatString: ", mark 2 "isHidden",
    mark 2 "summarizeBy: none", mark 2 "sourceColumn: "]

def columnValues (c : Column) : List (List (List Char)) :=
  [(describedLines c.description).map commentRow, [encode c.name.toList],
    [(Vocabulary.token c.dataType).toList], c.formatString.toList.map String.toList, flagValue c.isHidden,
    [[]], [c.name.toList]]

theorem columnRows (c : Column) : rows (columnLines c) = laidRows columnMarks (columnValues c) := by
  simp only [columnLines, rowsAppend, commentRows, optionalRows, flagRows, columnMarks, columnValues,
    laidRows]
  simp [rows, Line.raw, mark, quote]

theorem columnApart {c e : Column} (same : rows (columnLines c) = rows (columnLines e)) :
    shownColumn c = shownColumn e := by
  rw [columnRows, columnRows] at same
  have values := laidApart (by decide) rfl rfl same
  simp only [columnValues, List.cons.injEq, and_true, true_and] at values
  obtain ⟨description, _, dataType, formatString, hidden, name⟩ := values
  simp only [shownColumn, Column.mk.injEq, and_true]
  exact ⟨String.toList_inj.mp name, dataTypesSpelled.tokenInjective (String.toList_inj.mp dataType),
    shownTextApart description, optionalApart formatString, flagApart hidden⟩

def calculatedColumnMarks : List (List Char) :=
  [mark 1 "///", mark 1 "calculatedColumn ", mark 3 "", mark 2 "dataType: ", mark 2 "summarizeBy: none"]

def calculatedColumnValues (c : CalculatedColumn) : List (List (List Char)) :=
  [(describedLines c.description).map commentRow, [encode c.name.toList ++ formulaTail c.expression],
    bodyRests c.expression, [(Vocabulary.token c.dataType).toList], [[]]]

theorem calculatedColumnRows (c : CalculatedColumn) :
    rows (calculatedColumnLines c) = laidRows calculatedColumnMarks (calculatedColumnValues c) := by
  simp only [calculatedColumnLines, rowsAppend, commentRows, formulaRows, calculatedColumnMarks,
    calculatedColumnValues, laidRows]
  simp [rows, Line.raw, mark]

theorem calculatedColumnApart {c e : CalculatedColumn}
    (same : rows (calculatedColumnLines c) = rows (calculatedColumnLines e)) :
    shownCalculatedColumn c = shownCalculatedColumn e := by
  rw [calculatedColumnRows, calculatedColumnRows] at same
  have values := laidApart (by decide) rfl rfl same
  simp only [calculatedColumnValues, List.cons.injEq, and_true] at values
  obtain ⟨description, head, body, dataType⟩ := values
  obtain ⟨name, expression⟩ := formulaApart head body
  simp only [shownCalculatedColumn, CalculatedColumn.mk.injEq, and_true]
  exact ⟨name, expression, dataTypesSpelled.tokenInjective (String.toList_inj.mp dataType),
    shownTextApart description⟩

def measureMarks (depth : Nat) : List (List Char) :=
  [mark depth "///", mark depth "measure ", mark (depth + 2) "", mark (depth + 1) "dataType: ",
    mark (depth + 1) "formatString: ", mark (depth + 1) "displayFolder: ", mark (depth + 1) "isHidden"]

def measureValues (x : Measure) : List (List (List Char)) :=
  [(describedLines x.description).map commentRow, [encode x.name.toList ++ formulaTail x.expression],
    bodyRests x.expression, (x.dataType.map Vocabulary.token).toList.map String.toList,
    x.formatString.toList.map String.toList, x.displayFolder.toList.map String.toList,
    flagValue x.isHidden]

theorem measureRows (depth : Nat) (x : Measure) :
    rows (measureLines depth x) = laidRows (measureMarks depth) (measureValues x) := by
  simp only [measureLines, rowsAppend, commentRows, formulaRows, optionalRows, flagRows, measureMarks,
    measureValues, laidRows]
  simp [mark]

theorem measureApart {depth : Nat} {x y : Measure} (parted : (measureMarks depth).Pairwise Parted)
    (same : rows (measureLines depth x) = rows (measureLines depth y)) : shownMeasure x = shownMeasure y := by
  rw [measureRows, measureRows] at same
  have values := laidApart parted rfl rfl same
  simp only [measureValues, List.cons.injEq, and_true] at values
  obtain ⟨description, head, body, dataType, formatString, displayFolder, hidden⟩ := values
  obtain ⟨name, expression⟩ := formulaApart head body
  have typed : x.dataType = y.dataType :=
    Option.map_injective (fun _ _ => dataTypesSpelled.tokenInjective) (optionalApart dataType)
  simp only [shownMeasure, Measure.mk.injEq, and_true]
  exact ⟨name, expression, shownTextApart description, optionalApart formatString,
    optionalApart displayFolder, flagApart hidden, typed⟩

def queryTexts (t : Table) (server schema : String) : List (List Char) :=
  ["let".toList,
    "    Source = Sql.Database(".toList ++ (queryLiteralChars server.toList
      ++ (", ".toList ++ (queryLiteralChars schema.toList ++ "),".toList))),
    match t.source with
      | some q => "    Data = Value.NativeQuery(Source, ".toList
          ++ (queryLiteralChars (trim q.toList) ++ ")".toList)
      | none => "    Data = Source\x7b[Schema=".toList ++ (queryLiteralChars schema.toList
          ++ (",Item=".toList ++ (queryLiteralChars t.name.toList ++ "]\x7d[Data]".toList))),
    "in".toList, "    Data".toList]

def partitionMarks : List (List Char) :=
  [mark 1 "partition ", mark 2 "mode: ", mark 2 "source", mark 3 "entityName: ", mark 3 "schemaName: ",
    mark 3 "resourceId: ", mark 4 ""]

def partitionValues (t : Table) (o : Options) : List (List (List Char)) :=
  let schema := t.schema.getD o.defaultSchema
  [[encode t.name.toList ++ (" = ".toList ++ t.mode.partitionKind.toList)],
    [(Vocabulary.token t.mode).toList]] ++
    match t.mode with
    | .directConnection => [[[]], [(t.source.getD t.name).toList], [schema.toList],
        t.connection.toList.map String.toList, []]
    | .cached => [[" =".toList], [], [], [], queryTexts t (t.connection.getD o.defaultServer) schema]

theorem partitionRows (t : Table) (o : Options) :
    rows (partitionLines t o) = laidRows partitionMarks (partitionValues t o) := by
  cases mode : t.mode with
  | directConnection =>
    simp only [partitionLines, partitionValues, mode, entityLines, rowsAppend, optionalRows]
    simp [rows, Line.raw, mark, quote, partitionMarks, laidRows]
  | cached =>
    simp only [partitionLines, partitionValues, mode, queryLines, queryTexts, rowsAppend]
    cases source : t.source <;>
      simp [rows, Line.raw, mark, quote, queryLiteral, partitionMarks, laidRows]

theorem queryApart {t u : Table} {server server' schema schema' : String}
    (same : queryTexts t server schema = queryTexts u server' schema') :
    server = server' ∧ schema = schema' ∧
      t.source.map (fun q => String.ofList (trim q.toList)) =
        u.source.map fun q => String.ofList (trim q.toList) := by
  simp only [queryTexts, List.cons.injEq, and_true, true_and, List.append_cancel_left_eq] at same
  obtain ⟨database, data⟩ := same
  obtain ⟨serverSame, rest⟩ := literalInjective (by simp) (by simp) database
  obtain ⟨schemaSame, _⟩ := literalInjective (by decide) (by decide) (List.append_cancel_left rest)
  refine ⟨String.toList_inj.mp serverSame, String.toList_inj.mp schemaSame, ?_⟩
  cases left : t.source with
  | none =>
    cases right : u.source with
    | none => rfl
    | some k => simp [left, right] at data
  | some q =>
    cases right : u.source with
    | none => simp [left, right] at data
    | some k =>
      simp only [left, right, List.append_cancel_left_eq] at data
      obtain ⟨query, _⟩ := literalInjective (by decide) (by decide) data
      rw [Option.map_some, Option.map_some, query]

theorem partitionApart {t u : Table} {o : Options}
    (same : rows (partitionLines t o) = rows (partitionLines u o)) :
    t.mode = u.mode ∧ (shownTable o t).schema = (shownTable o u).schema ∧
      (shownTable o t).source = (shownTable o u).source ∧
      (shownTable o t).connection = (shownTable o u).connection := by
  rw [partitionRows, partitionRows] at same
  have length (x : Table) : (partitionValues x o).length = partitionMarks.length := by
    unfold partitionValues
    cases x.mode <;> rfl
  have values := laidApart (by decide) (length t) (length u) same
  simp only [partitionValues, List.cons_append, List.nil_append, List.cons.injEq, and_true] at values
  obtain ⟨_, token, rest⟩ := values
  have modes : t.mode = u.mode := modesSpelled.tokenInjective (String.toList_inj.mp token)
  cases mode : t.mode with
  | directConnection =>
    have other : u.mode = .directConnection := modes.symm.trans mode
    simp only [mode, other, List.cons.injEq, and_true, true_and] at rest
    obtain ⟨entity, schema, resource⟩ := rest
    simp only [shownTable, mode, other]
    exact ⟨trivial, congrArg some (String.toList_inj.mp schema),
      congrArg some (String.toList_inj.mp entity), optionalApart resource⟩
  | cached =>
    have other : u.mode = .cached := modes.symm.trans mode
    simp only [mode, other, List.cons.injEq, and_true, true_and] at rest
    obtain ⟨server, schema, query⟩ := queryApart rest
    simp only [shownTable, mode, other]
    exact ⟨trivial, congrArg some schema, query, congrArg some server⟩

def tableHead (t : Table) : List Line := comment 0 t.description ++ [⟨0, "table " ++ quote t.name⟩]

def tableBlocks (t : Table) (o : Options) : List (List Line) := tableHead t :: partBlocks t o

theorem tableHeadRows (t : Table) : rows (tableHead t) = laidRows [mark 0 "///", mark 0 "table "]
    [(describedLines t.description).map commentRow, [encode t.name.toList]] := by
  simp only [tableHead, rowsAppend, commentRows, lineRows]
  simp [laidRows, rows, quote]

theorem tableHeadApart {t u : Table} (same : rows (tableHead t) = rows (tableHead u)) :
    shownText t.description = shownText u.description ∧ t.name = u.name := by
  rw [tableHeadRows, tableHeadRows] at same
  have values := laidApart (by decide) rfl rfl same
  simp only [List.cons.injEq, and_true] at values
  exact ⟨shownTextApart values.1, quoteInjective values.2⟩

theorem blockMapApart {α β : Type} {f : α → List Line} {g : α → β} {xs ys : List α}
    (each : ∀ x y, rows (f x) = rows (f y) → g x = g y)
    (same : (xs.map f).map rows = (ys.map f).map rows) : xs.map g = ys.map g := by
  rw [List.map_map, List.map_map] at same
  exact mapDetermined each same

theorem tableApart {t u : Table} {o : Options} (columns : t.columns.length = u.columns.length)
    (measures : t.measures.length = u.measures.length)
    (same : (tableBlocks t o).map rows = (tableBlocks u o).map rows) : shownTable o t = shownTable o u := by
  simp only [tableBlocks, partBlocks, List.map_cons, List.map_append, List.cons_append,
    List.cons.injEq] at same
  obtain ⟨head, partition, parts⟩ := same
  obtain ⟨front, calculated⟩ := List.append_inj parts (by simp [columns, measures])
  obtain ⟨plain, formulas⟩ := List.append_inj front (by simp [columns])
  obtain ⟨description, name⟩ := tableHeadApart head
  obtain ⟨mode, schema, source, connection⟩ := partitionApart partition
  have columnsSame : t.columns.map shownColumn = u.columns.map shownColumn :=
    blockMapApart (fun _ _ => columnApart) plain
  have measuresSame : t.measures.map shownMeasure = u.measures.map shownMeasure :=
    blockMapApart (fun _ _ => measureApart (by decide)) formulas
  have calculatedSame : t.calculatedColumns.map shownCalculatedColumn =
      u.calculatedColumns.map shownCalculatedColumn :=
    blockMapApart (fun _ _ => calculatedColumnApart) calculated
  simp only [shownTable, Table.mk.injEq] at schema source connection ⊢
  exact ⟨name, schema, mode, description, source, connection, columnsSame, calculatedSame, measuresSame⟩

def relationshipMarks : List (List Char) :=
  [mark 0 "///", mark 0 "relationship ", mark 1 "fromColumn: ", mark 1 "toColumn: ",
    mark 1 "fromCardinality: ", mark 1 "toCardinality: ", mark 1 "crossFilteringBehavior: ",
    mark 1 "isActive: false"]

def relationshipValues (name : String) (r : Relationship) : List (List (List Char)) :=
  [(describedLines r.description).map commentRow, [encode name.toList],
    [encodePair r.fromTable.toList r.fromColumn.toList], [encodePair r.toTable.toList r.toColumn.toList],
    [r.cardinality.ends.1.toList], [r.cardinality.ends.2.toList],
    [(Vocabulary.token r.crossFilter).toList], flagValue (!r.isActive)]

theorem relationshipRows (name : String) (r : Relationship) :
    rows (relationshipLines name r) = laidRows relationshipMarks (relationshipValues name r) := by
  simp only [relationshipLines, rowsAppend, commentRows, flagRows, relationshipMarks, relationshipValues,
    laidRows]
  simp [rows, Line.raw, mark, quote, qualified]

theorem relationshipApart {name other : String} {r q : Relationship}
    (same : rows (relationshipLines name r) = rows (relationshipLines other q)) :
    shownRelationship r = shownRelationship q := by
  rw [relationshipRows, relationshipRows] at same
  have values := laidApart (by decide) rfl rfl same
  simp only [relationshipValues, List.cons.injEq, and_true] at values
  obtain ⟨description, _, source, target, sourceEnd, targetEnd, filter, inactive⟩ := values
  obtain ⟨fromTable, fromColumn⟩ := encodePairInjective source
  obtain ⟨toTable, toColumn⟩ := encodePairInjective target
  have cardinality : r.cardinality = q.cardinality := by
    have known := endsBack r.cardinality
    rw [String.toList_inj.mp sourceEnd, String.toList_inj.mp targetEnd, endsBack] at known
    exact (Except.ok.inj known).symm
  have active : r.isActive = q.isActive := by simpa using flagApart inactive
  simp only [shownRelationship, Relationship.mk.injEq]
  exact ⟨String.toList_inj.mp fromTable, String.toList_inj.mp fromColumn, String.toList_inj.mp toTable,
    String.toList_inj.mp toColumn, cardinality, filtersSpelled.tokenInjective (String.toList_inj.mp filter),
    shownTextApart description, active⟩

theorem quotesApart {as bs : List String}
    (same : as.map (fun s => encode s.toList) = bs.map fun s => encode s.toList) : as = bs :=
  List.map_injective_iff.mpr (fun _ _ => quoteInjective) same

theorem hierarchyRows (h : Hierarchy) : rows (hierarchyLines h) =
    laidRows [mark 0 "///", mark 0 "hierarchy ", mark 1 "table: ", mark 1 "level "]
      [(describedLines h.description).map commentRow, [encode h.name.toList],
        h.table.toList.map (fun s => encode s.toList), h.levels.map fun s => encode s.toList] := by
  simp only [hierarchyLines, rowsAppend, commentRows, optionalRows, laidRows]
  cases h.table <;> simp [rows, Line.raw, mark, quote]

theorem hierarchyApart {h k : Hierarchy} (same : rows (hierarchyLines h) = rows (hierarchyLines k)) :
    shownHierarchy h = shownHierarchy k := by
  rw [hierarchyRows, hierarchyRows] at same
  have values := laidApart (by decide) rfl rfl same
  simp only [List.cons.injEq, and_true] at values
  obtain ⟨description, name, table, levels⟩ := values
  have owner : h.table = k.table := by
    have tables := quotesApart table
    cases left : h.table <;> cases right : k.table <;> simp_all
  simp only [shownHierarchy, Hierarchy.mk.injEq]
  exact ⟨quoteInjective name, quotesApart levels, owner, shownTextApart description⟩

def roleHead (r : Role) : List Line :=
  comment 0 r.description ++ [⟨0, "role " ++ quote r.name⟩, ⟨1, "modelPermission: read"⟩]

theorem roleHeadRows (r : Role) : rows (roleHead r) =
    laidRows [mark 0 "///", mark 0 "role ", mark 1 "modelPermission: read"]
      [(describedLines r.description).map commentRow, [encode r.name.toList], [[]]] := by
  simp only [roleHead, rowsAppend, commentRows, laidRows]
  simp [rows, Line.raw, mark, quote]

theorem roleHeadApart {r q : Role} (same : rows (roleHead r) = rows (roleHead q)) :
    shownText r.description = shownText q.description ∧ r.name = q.name := by
  rw [roleHeadRows, roleHeadRows] at same
  have values := laidApart (by decide) rfl rfl same
  simp only [List.cons.injEq, and_true] at values
  exact ⟨shownTextApart values.1, quoteInjective values.2⟩

theorem permissionRows (p : TablePermission) :
    rows (formula 1 ("tablePermission " ++ quote p.table) p.filter) =
      laidRows [mark 1 "tablePermission ", mark 3 ""]
        [[encode p.table.toList ++ formulaTail p.filter], bodyRests p.filter] := by
  rw [formulaRows]
  simp [laidRows]

theorem permissionApart {p q : TablePermission}
    (same : rows (formula 1 ("tablePermission " ++ quote p.table) p.filter) =
      rows (formula 1 ("tablePermission " ++ quote q.table) q.filter)) :
    shownPermission p = shownPermission q := by
  rw [permissionRows, permissionRows] at same
  have values := laidApart (by decide) rfl rfl same
  simp only [List.cons.injEq, and_true] at values
  obtain ⟨table, filter⟩ := formulaApart values.1 values.2
  simp only [shownPermission, TablePermission.mk.injEq]
  exact ⟨table, filter⟩

def nameBlock (depth : Nat) (front : String) : List String → List (List Line)
  | [] => []
  | names => [names.map fun n => ⟨depth, front ++ quote n⟩]

theorem namesRows (depth : Nat) (front : String) (names : List String) :
    rows (names.map fun n => ⟨depth, front ++ quote n⟩) =
      laidRows [mark depth front] [names.map fun n => encode n.toList] := by
  simp [rows, Line.raw, mark, quote, laidRows]

theorem nameBlockApart {depth : Nat} {front : String} {as bs : List String}
    (same : (nameBlock depth front as).map rows = (nameBlock depth front bs).map rows) : as = bs := by
  cases as with
  | nil =>
    cases bs with
    | nil => rfl
    | cons b bs => simp [nameBlock] at same
  | cons a as =>
    cases bs with
    | nil => simp [nameBlock] at same
    | cons b bs =>
      have block : rows ((a :: as).map fun n => ⟨depth, front ++ quote n⟩) =
          rows ((b :: bs).map fun n => ⟨depth, front ++ quote n⟩) := List.singleton_inj.mp same
      rw [namesRows, namesRows] at block
      have values := laidApart (List.pairwise_singleton ..) rfl rfl block
      exact quotesApart (List.singleton_inj.mp values)

def roleBlocks (r : Role) : List (List Line) :=
  roleHead r :: (r.permissions.map fun p => formula 1 ("tablePermission " ++ quote p.table) p.filter)
    ++ nameBlock 1 "member " r.members

theorem roleApart {r q : Role} (permissions : r.permissions.length = q.permissions.length)
    (same : (roleBlocks r).map rows = (roleBlocks q).map rows) : shownRole r = shownRole q := by
  simp only [roleBlocks, List.map_cons, List.map_append, List.cons_append, List.cons.injEq] at same
  obtain ⟨head, parts⟩ := same
  obtain ⟨filters, members⟩ := List.append_inj parts (by simp [permissions])
  obtain ⟨description, name⟩ := roleHeadApart head
  have permissionsSame : r.permissions.map shownPermission = q.permissions.map shownPermission :=
    blockMapApart (fun _ _ => permissionApart) filters
  simp only [shownRole, Role.mk.injEq]
  exact ⟨name, description, permissionsSame, nameBlockApart members⟩

end Tabular.Definition

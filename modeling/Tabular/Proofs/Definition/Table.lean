import Tabular.Proofs.Definition.QueryText
import Tabular.Proofs.Definition.Section
import Tabular.Proofs.Validation.Legal

/-! A table read back. Nothing is asked of comments, formulas and queries; names and values have to stand
on one line, which legal ones do. -/
namespace Tabular.Definition
open Text Unicode Name Validation

theorem plainFlat {s : String} (plain : Plain s) : OneLine s.toList := fun feed => by
  have := plain '\n' feed
  revert this; decide

theorem nameFlat {s : String} (legal : LegalName s) : OneLine s.toList := plainFlat legal.2

theorem Attached.property {depth : Nat} {key : String} {value : Option String}
    (flatKey : OneLine key.toList) (letter : Lettered key.toList) (flat : ∀ v ∈ value, OneLine v.toList) :
    Attached depth (property? (depth + 1) key value) := by
  cases value with
  | none => exact .nil
  | some v =>
    have front : OneLine (key ++ ": ").toList := by simpa [OneLine] using flatKey
    refine .valued front ?_ (flat v rfl)
    rw [String.toList_append]
    exact letter.append _

theorem Attached.flag {depth : Nat} {key : String} (flat : OneLine key.toList)
    (letter : Lettered key.toList) (on : Bool) : Attached depth (flag (depth + 1) key on) := by
  cases on
  · exact .nil
  · exact .line flat letter

theorem propertyHead {depth : Nat} {key : String} {value : Option String} {l : Line}
    (filled : key.toList ≠ []) (member : l ∈ property? depth key value) :
    l.text.toList.head? = key.toList.head? := by
  cases value with
  | none => simp [property?] at member
  | some v =>
    cases List.mem_singleton.mp member
    obtain ⟨c, rest, first⟩ := List.exists_cons_of_ne_nil filled
    simp [first]

theorem flagHead {depth : Nat} {key : String} {on : Bool} {l : Line} (member : l ∈ flag depth key on) :
    l.text = key := by
  cases on
  · simp [flag] at member
  · cases List.mem_singleton.mp member
    rfl

section Parts
variable {s : Section} {rest : List Char}

theorem partitionPart (head : s.head.text = "partition".toList ++ ' ' :: rest) :
    readTablePart s = do
      let _ ← readName s.head rest
      return .partition (← readLast "mode" (properties s)) := by
  rw [readTablePart, head, splitWordAt (by decide)]
  rfl

theorem columnPart (head : s.head.text = "column".toList ++ ' ' :: rest) :
    readTablePart s = do
      let n ← readName s.head rest
      return .column ⟨n.1, ← readLast "dataType" (properties s)⟩ := by
  rw [readTablePart, head, splitWordAt (by decide)]
  rfl

theorem measurePart (head : s.head.text = "measure".toList ++ ' ' :: rest) :
    readTablePart s = do
      let n ← readName s.head rest
      return .measure ⟨n.1, ← readFormula s n.2⟩ := by
  rw [readTablePart, head, splitWordAt (by decide)]
  rfl

theorem calculatedColumnPart (head : s.head.text = "calculatedColumn".toList ++ ' ' :: rest) :
    readTablePart s = do
      let n ← readName s.head rest
      return .calculatedColumn ⟨n.1, ← readFormula s n.2⟩ := by
  rw [readTablePart, head, splitWordAt (by decide)]
  rfl

theorem tableItem (head : s.head.text = "table".toList ++ ' ' :: rest) :
    readItem s = do
      let n ← readName s.head rest
      return .table (← readTable s n.1) := by
  rw [readItem, head, splitWordAt (by decide)]
  rfl

end Parts

def measureOutline (x : Measure) : Formula := ⟨x.name, readBack (Expression.normalize x.expression)⟩

def calculatedColumnOutline (c : CalculatedColumn) : Formula :=
  ⟨c.name, readBack (Expression.normalize c.expression)⟩

theorem measureReads {depth : Nat} {α : Type} {f : Section → Except ReadFault α} {x : Measure}
    (mk : Formula → α) (legal : LegalName x.name) (values : LegalMeasureValues x)
    (reader : ∀ s rest, s.head.text = "measure".toList ++ ' ' :: rest → f s = do
      let n ← readName s.head rest
      return mk ⟨n.1, ← readFormula s n.2⟩) :
    Reads depth f (measureLines depth x) [mk (measureOutline x)] := by
  have attached : Attached depth (property? (depth + 1) "dataType" (x.dataType.map Vocabulary.token)
      ++ property? (depth + 1) "formatString" x.formatString
      ++ property? (depth + 1) "displayFolder" x.displayFolder
      ++ flag (depth + 1) "isHidden" x.isHidden) := by
    refine .append (.append (.append (.property (by decide) (by decide) ?_)
      (.property (by decide) (by decide) fun v some => plainFlat (values.formatString v some)))
      (.property (by decide) (by decide) fun v some => plainFlat (values.displayFolder v some)))
      (.flag (by decide) (by decide) _)
    intro v some
    obtain ⟨d, _, rfl⟩ := Option.map_eq_some_iff.mp some
    exact (dataTypesSpelled.solid d).line.flat
  have body : Reads depth f _ [mk (measureOutline x)] :=
    .formula "measure " (fun n e => mk ⟨n, e⟩) (by decide) reader (by decide) (nameFlat legal) attached
  simpa only [measureLines, List.append_assoc] using body.commented x.description

theorem calculatedColumnReads {c : CalculatedColumn} (legal : LegalName c.name) :
    Reads 1 readTablePart (calculatedColumnLines c) [.calculatedColumn (calculatedColumnOutline c)] := by
  have attached : Attached 1 [⟨2, "dataType: " ++ Vocabulary.token c.dataType⟩, ⟨2, "summarizeBy: none"⟩] := by
    exact .append (.valued (by decide) (by decide) (dataTypesSpelled.solid c.dataType).line.flat)
      (.line (by decide) (by decide))
  have body : Reads 1 readTablePart _ [.calculatedColumn (calculatedColumnOutline c)] :=
    .formula "calculatedColumn " (fun n e => TablePart.calculatedColumn ⟨n, e⟩) (by decide)
      (fun _ _ => calculatedColumnPart) (by decide) (nameFlat legal) attached
  simpa only [calculatedColumnLines, List.append_assoc] using body.commented c.description

def columnOutline (c : Column) : ColumnOutline := ⟨c.name, some c.dataType⟩

theorem columnReads {c : Column} (legal : LegalName c.name) (plain : ∀ v ∈ c.formatString, Plain v) :
    Reads 1 readTablePart (columnLines c) [.column (columnOutline c)] := by
  let rest : List Line := property? 2 "formatString" c.formatString ++ flag 2 "isHidden" c.isHidden
    ++ [⟨2, "summarizeBy: none"⟩, ⟨2, "sourceColumn: " ++ c.name⟩]
  have name := nameFlat legal
  have attached : Attached 1 ([⟨2, "dataType: " ++ Vocabulary.token c.dataType⟩] ++ rest) := by
    exact .append (.valued (by decide) (by decide) (dataTypesSpelled.solid c.dataType).line.flat)
      (.append (.append
        (.property (by decide) (by decide) fun v some => plainFlat (plain v some))
        (.flag (by decide) (by decide) _))
      (.append (.line (by decide) (by decide)) (.valued (by decide) (by decide) name)))
  have differ : ∀ l ∈ rest, l.text.toList.head? ≠ "dataType".toList.head? := by
    refine List.forall_mem_append.mpr ⟨List.forall_mem_append.mpr ⟨fun l mem => ?_, fun l mem => ?_⟩, ?_⟩
    · rw [propertyHead (by decide) mem]
      decide
    · rw [flagHead mem]
      decide
    · simp
  have body : Reads 1 readTablePart (⟨1, "column " ++ quote c.name⟩ ::
      ([⟨2, "dataType: " ++ Vocabulary.token c.dataType⟩] ++ rest)) [.column (columnOutline c)] := by
    refine .named "column" (by decide) (by decide) name attached.flat attached.below fun n => ?_
    rw [← List.append_nil ([_] ++ rest), columnPart rfl, readNameWhole,
      readFirst dataTypesSpelled c.dataType [] (by decide) (by simp) attached differ (by simp [Below])]
    rfl
  simpa only [columnLines, List.append_assoc, List.cons_append, List.nil_append, rest]
    using body.commented c.description

structure SourceBlock (ls : List Line) (head : String) (more : List Line) : Prop where
  split : ls = [⟨2, head⟩] ++ more
  headFlat : OneLine head.toList
  start : head.toList.head? = some 's'
  flat : Flat more
  below : Below 2 more

theorem entityBlock {t : Table} {schema : String} (name : LegalName t.name) (flat : OneLine schema.toList)
    (entity : ∀ v ∈ t.source, Plain v) (connection : ∀ v ∈ t.connection, Plain v) :
    ∃ head more, SourceBlock (entityLines t schema) head more := by
  have source : OneLine (t.source.getD t.name).toList := by
    cases h : t.source with
    | none => exact nameFlat name
    | some v => exact plainFlat (entity v h)
  have resource : Attached 2 (property? 3 "resourceId" t.connection) :=
    .property (by decide) (by decide) fun v some => plainFlat (connection v some)
  refine ⟨"source", [⟨3, "entityName: " ++ t.source.getD t.name⟩, ⟨3, "schemaName: " ++ schema⟩] ++
    property? 3 "resourceId" t.connection, rfl, by decide, by decide, ?_, ?_⟩
  · refine List.forall_mem_append.mpr ⟨?_, resource.flat⟩
    simpa [OneLine] using ⟨source, flat⟩
  · exact List.forall_mem_append.mpr ⟨by simp, resource.below⟩

theorem queryBlock (t : Table) (server schema : String) :
    ∃ head more, SourceBlock (queryLines t server schema) head more := by
  have literal (s : List Char) : '\n' ∉ queryLiteralChars s := literalFlat s
  refine ⟨"source =", _, rfl, by decide, by decide, ?_, by simp [Below]⟩
  unfold Flat OneLine
  cases t.source <;> simp [queryLiteral, literal]

def FlatSchema (t : Table) (o : Options) : Prop :=
  t.mode = .directConnection → t.schema = none → OneLine o.defaultSchema.toList

theorem sourceBlock {t : Table} {o : Options} (name : LegalName t.name) (values : LegalTableValues t)
    (flat : FlatSchema t o) : ∃ head more ls, SourceBlock ls head more ∧ partitionLines t o =
      [⟨1, "partition " ++ quote t.name ++ " = " ++ t.mode.partitionKind⟩,
        ⟨2, "mode: " ++ Vocabulary.token t.mode⟩] ++ ls := by
  unfold partitionLines
  cases mode : t.mode with
  | directConnection =>
    have schema : OneLine (t.schema.getD o.defaultSchema).toList := by
      cases h : t.schema with
      | none => exact flat mode h
      | some v => exact plainFlat (values.schema v h)
    obtain ⟨head, more, block⟩ := entityBlock name schema (values.entity mode) values.connection
    exact ⟨head, more, _, block, rfl⟩
  | cached =>
    obtain ⟨head, more, block⟩ :=
      queryBlock t (t.connection.getD o.defaultServer) (t.schema.getD o.defaultSchema)
    exact ⟨head, more, _, block, rfl⟩

theorem partitionReads {t : Table} {o : Options} (name : LegalName t.name) (values : LegalTableValues t)
    (flat : FlatSchema t o) :
    Reads 1 readTablePart (partitionLines t o) [.partition (some t.mode)] := by
  obtain ⟨source, more, _, block, split⟩ := sourceBlock name values flat
  have solid : Solid t.mode.partitionKind.toList := by cases t.mode <;> decide
  have kind : LineText ([' ', '=', ' '] ++ t.mode.partitionKind.toList) :=
    .append (by decide) solid.line
  have text : ("partition " ++ quote t.name ++ " = " ++ t.mode.partitionKind).toList =
      "partition".toList ++ ' ' :: (encode t.name.toList ++
        ([' ', '=', ' '] ++ t.mode.partitionKind.toList)) := by
    simp [quote]
  have attached : Attached 1 ([⟨2, "mode: " ++ Vocabulary.token t.mode⟩] ++ [⟨2, source⟩]) := by
    exact .append (.valued (by decide) (by decide) (modesSpelled.solid t.mode).line.flat)
      (.line block.headFlat ⟨'s', block.start, by decide⟩)
  have below : Below 1 more := fun l mem => (block.below l mem).imp_right Nat.lt_of_succ_lt
  have body : Reads 1 readTablePart (⟨1, "partition " ++ quote t.name ++ " = " ++ t.mode.partitionKind⟩ ::
      ([⟨2, "mode: " ++ Vocabulary.token t.mode⟩] ++ [⟨2, source⟩] ++ more)) [.partition (some t.mode)] := by
    refine .headed (by decide) rfl text (.append (encodeLine (nameFlat name)).flat kind)
      (List.forall_mem_append.mpr ⟨attached.flat, block.flat⟩)
      (List.forall_mem_append.mpr ⟨attached.below, below⟩) fun n => ?_
    rw [partitionPart rfl, readNameEncode,
      readFirst modesSpelled t.mode more (by decide) (by simp) attached (by simp [block.start]) block.below]
    · rfl
    · exact stopsSpace _
  rw [split, block.split]
  exact body

def tableParts (t : Table) : List TablePart :=
  [.partition (some t.mode)] ++ t.columns.map (fun c => .column (columnOutline c))
    ++ t.measures.map (fun x => .measure (measureOutline x))
    ++ t.calculatedColumns.map fun c => .calculatedColumn (calculatedColumnOutline c)

def tableOutline (t : Table) : TableOutline where
  name := t.name
  mode := some t.mode
  columns := t.columns.map columnOutline
  measures := t.measures.map measureOutline
  calculatedColumns := t.calculatedColumns.map calculatedColumnOutline

theorem spacedAppend (as bs : List (List Line)) : spaced (as ++ bs) = spaced as ++ spaced bs := by
  simp [spaced]

def partBlocks (t : Table) (o : Options) : List (List Line) :=
  [partitionLines t o] ++ t.columns.map columnLines ++ t.measures.map (measureLines 1)
    ++ t.calculatedColumns.map calculatedColumnLines

theorem tableLinesParts {t : Table} (o : Options)
    (modes : t.mode = .directConnection → t.calculatedColumns = []) : tableLines t o =
      comment 0 t.description ++ (⟨0, "table " ++ quote t.name⟩ :: spaced (partBlocks t o)) := by
  have written : (if t.mode.supportsCalculatedColumns then t.calculatedColumns.map calculatedColumnLines
      else []) = t.calculatedColumns.map calculatedColumnLines := by
    cases mode : t.mode with
    | directConnection => rw [modes mode, List.map_nil, ite_self]
    | cached => rfl
  rw [tableLines, written, List.append_assoc, List.singleton_append, partBlocks]

theorem tablePartsRead {t : Table} {o : Options} (names : LegalTableNames t) (values : LegalTableValues t)
    (measures : ∀ x ∈ t.measures, LegalMeasureValues x) (flat : FlatSchema t o) :
    Reads 1 readTablePart (spaced (partBlocks t o)) (tableParts t) := by
  have partition : Reads 1 readTablePart (spaced [partitionLines t o]) [.partition (some t.mode)] := by
    have block := (partitionReads names.table values flat).blank
    simpa [spaced] using block
  have columns : Reads 1 readTablePart (spaced (t.columns.map columnLines))
      (t.columns.map fun c => .column (columnOutline c)) :=
    .spaced fun c mem => columnReads (names.columns c mem) (values.columns c mem)
  have formulas : Reads 1 readTablePart (spaced (t.measures.map (measureLines 1)))
      (t.measures.map fun x => .measure (measureOutline x)) :=
    .spaced fun x mem => measureReads TablePart.measure (names.measures x mem) (measures x mem)
      fun _ _ => measurePart
  have calculated : Reads 1 readTablePart (spaced (t.calculatedColumns.map calculatedColumnLines))
      (t.calculatedColumns.map fun c => .calculatedColumn (calculatedColumnOutline c)) :=
    .spaced fun c mem => calculatedColumnReads (names.calculatedColumns c mem)
  rw [partBlocks, spacedAppend, spacedAppend, spacedAppend]
  exact ((partition.append columns).append formulas).append calculated

theorem foldlGathers {σ β γ : Type} (add : σ → β → σ) (mk : γ → β) (put : σ → List γ → σ)
    (none : ∀ s, put s [] = s) (more : ∀ s x xs, put (add s (mk x)) xs = put s (x :: xs)) (s : σ)
    (xs : List γ) : (xs.map mk).foldl add s = put s xs := by
  induction xs generalizing s with
  | nil => exact (none s).symm
  | cons x xs ih => rw [List.map_cons, List.foldl_cons, ih, more]

theorem tablePartsAdd (t : Table) :
    (tableParts t).foldl TableOutline.add { name := t.name } = tableOutline t := by
  have columns := foldlGathers TableOutline.add (fun c => .column (columnOutline c))
    (fun s cs => { s with columns := s.columns ++ cs.map columnOutline })
    (by simp) (by simp [TableOutline.add])
  have measures := foldlGathers TableOutline.add (fun x => .measure (measureOutline x))
    (fun s xs => { s with measures := s.measures ++ xs.map measureOutline })
    (by simp) (by simp [TableOutline.add])
  have calculated := foldlGathers TableOutline.add (fun c => .calculatedColumn (calculatedColumnOutline c))
    (fun s cs => { s with calculatedColumns := s.calculatedColumns ++ cs.map calculatedColumnOutline })
    (by simp) (by simp [TableOutline.add])
  rw [tableParts, List.foldl_append, List.foldl_append, List.foldl_append, columns, measures, calculated]
  rfl

theorem tableReads {t : Table} {o : Options} (names : LegalTableNames t) (values : LegalTableValues t)
    (measures : ∀ x ∈ t.measures, LegalMeasureValues x)
    (modes : t.mode = .directConnection → t.calculatedColumns = []) (flat : FlatSchema t o) :
    Reads 0 readItem (tableLines t o) [.table (tableOutline t)] := by
  have inside : Reads (0 + 1) readTablePart (spaced (partBlocks t o)) (tableParts t) :=
    tablePartsRead names values measures flat
  rw [tableLinesParts o modes]
  refine .commented _ (.named "table" (by decide) (by decide) (nameFlat names.table) inside.flat
    inside.below fun n => ?_)
  have found := inside.parts n (n + 1) ("table".toList ++ ' ' :: encode t.name.toList)
  rw [tableItem rfl, readNameWhole, ← tablePartsAdd t]
  simp only [readTable, found]
  rfl

end Tabular.Definition

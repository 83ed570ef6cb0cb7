import Tabular.Proofs.Definition.Shown

/-! The source of a partition. The server, the schema and the query of a cached table are written as literals, which can
be read back whatever stands in them. A direct connection has no server and no query; it writes its entity, its schema
and its resource as they are. These tell two sources apart as long as neither entity nor schema holds a line feed, which
a legal model leaves to the default schema alone. -/
namespace Tabular.Definition
open Text Validation

def effectiveServer (t : Table) (o : Options) : String := t.connection.getD o.defaultServer

def effectiveSchema (t : Table) (o : Options) : String := t.schema.getD o.defaultSchema

def trimmedQuery (t : Table) : Option String := t.source.map fun q => String.ofList (trim q.toList)

def partitionSource (t : Table) (o : Options) : List Line := (partitionLines t o).drop 2

structure SameQuery (t u : Table) (o p : Options) : Prop where
  server : effectiveServer t o = effectiveServer u p
  schema : effectiveSchema t o = effectiveSchema u p
  query : trimmedQuery t = trimmedQuery u

def entityName (t : Table) : String := t.source.getD t.name

structure SameEntity (t u : Table) (o p : Options) : Prop where
  entity : entityName t = entityName u
  schema : effectiveSchema t o = effectiveSchema u p
  resource : t.connection = u.connection

/-- Neither the entity nor the schema, which a direct connection writes as they are, goes on behind its line. -/
structure OneLineEntity (t : Table) (o : Options) : Prop where
  entity : OneLine (entityName t).toList
  schema : OneLine (effectiveSchema t o).toList

section Source
variable {t u : Table} {o p : Options}

theorem cachedSource (cached : t.mode = .cached) :
    partitionSource t o = queryLines t (effectiveServer t o) (effectiveSchema t o) := by
  simp only [partitionSource, partitionLines, cached]
  rfl

theorem directSource (direct : t.mode = .directConnection) :
    partitionSource t o = entityLines t (effectiveSchema t o) := by
  simp only [partitionSource, partitionLines, direct]
  rfl

theorem queryFlat (t : Table) (server schema : String) : Flat (queryLines t server schema) := by
  obtain ⟨head, more, block⟩ := queryBlock t server schema
  rw [block.split]
  exact List.forall_mem_cons.mpr ⟨block.headFlat, block.flat⟩

theorem queryRows (t : Table) (server schema : String) : rows (queryLines t server schema) =
    mark 2 "source =" :: (queryTexts t server schema).map (mark 4 "" ++ ·) := by
  cases source : t.source <;> simp [queryLines, queryTexts, source, rows, Line.raw, mark, queryLiteral]

theorem sameQuery (left : t.mode = .cached) (right : u.mode = .cached)
    (same : render (partitionSource t o) = render (partitionSource u p)) : SameQuery t u o p := by
  rw [cachedSource left, cachedSource right] at same
  have told := renderRows (queryFlat _ _ _) (queryFlat _ _ _) same
  rw [queryRows, queryRows, List.cons.injEq] at told
  have texts := List.map_injective_iff.mpr (fun _ _ equal => List.append_cancel_left equal) told.2
  obtain ⟨server, schema, query⟩ := queryApart texts
  exact ⟨server, schema, query⟩

theorem modesApart (left : t.mode = .cached) (right : u.mode = .directConnection) :
    render (partitionSource t o) ≠ render (partitionSource u p) := by
  intro same
  rw [cachedSource left, directSource right] at same
  -- `source =` against `source`
  have chars := congrArg String.toList same
  simp [render, queryLines, entityLines, Line.chars] at chars

def resourceChars (resource : Option String) : List Char := (property? 3 "resourceId" resource).flatMap Line.chars

theorem resourceApart {v w : Option String} (same : resourceChars v = resourceChars w) : v = w := by
  cases v <;> cases w <;> simp_all [resourceChars, property?, Line.chars, String.toList_inj]

theorem entityChars (t : Table) (schema : String) : (render (entityLines t schema)).toList =
    mark 2 "source" ++ '\n' :: mark 3 "entityName: " ++ ((entityName t).toList ++ '\n' ::
      (mark 3 "schemaName: " ++ (schema.toList ++ '\n' :: resourceChars t.connection))) := by
  simp [render, entityLines, Line.chars, mark, entityName, resourceChars]

theorem sameEntity (left : t.mode = .directConnection) (right : u.mode = .directConnection)
    (flat : OneLineEntity t o) (flat' : OneLineEntity u p)
    (same : render (partitionSource t o) = render (partitionSource u p)) : SameEntity t u o p := by
  rw [directSource left, directSource right] at same
  have chars := congrArg String.toList same
  rw [entityChars, entityChars, List.append_cancel_left_eq] at chars
  obtain ⟨entity, behind⟩ := splitFirst flat.entity flat'.entity chars
  obtain ⟨schema, resource⟩ := splitFirst flat.schema flat'.schema (List.append_cancel_left behind)
  exact ⟨String.toList_inj.mp entity, String.toList_inj.mp schema, resourceApart resource⟩

theorem legalEntity {m : Model} (legal : Legal m) (plain : OneLine o.defaultSchema.toList) (member : t ∈ m.tables)
    (direct : t.mode = .directConnection) : OneLineEntity t o := by
  have name := (legal.names.tables t member).table
  have values := legal.values.tables t member
  constructor
  case entity =>
    unfold entityName
    cases source : t.source with
    | none => exact nameFlat name
    | some v => exact plainFlat (values.entity direct v source)
  case schema =>
    unfold effectiveSchema
    cases schema : t.schema with
    | none => exact plain
    | some v => exact plainFlat (values.schema v schema)

theorem literalRead (v : String) : '\n' ∉ (queryLiteral v).toList ∧ '\r' ∉ (queryLiteral v).toList ∧
    '\t' ∉ (queryLiteral v).toList ∧ ∃ inside, (queryLiteral v).toList = '\x22' :: inside ++ ['\x22'] ∧
      decodeQuery (inside ++ ['\x22']) = some (v.toList, []) := by
  have text : (queryLiteral v).toList = queryLiteralChars v.toList := String.toList_ofList
  have solid := literalSolid v.toList
  rw [text]
  refine ⟨fun feed => ?_, fun carriage => ?_, fun tab => ?_, escapeQuery v.toList, rfl, ?_⟩
  · exact absurd (solid _ feed) (by decide)
  · exact absurd (solid _ carriage) (by decide)
  · exact absurd (solid _ tab) (by decide)
  · exact decodeEscape v.toList (by simp)

example : queryLiteral "\x23\x23(\n" = "\x22\x23\x23(\x23)(\x23(lf)\x22" := by decide

end Source

theorem literalsExact :
    (∀ v : String, '\n' ∉ (queryLiteral v).toList ∧ '\r' ∉ (queryLiteral v).toList ∧
      '\t' ∉ (queryLiteral v).toList ∧ ∃ inside, (queryLiteral v).toList = '\x22' :: inside ++ ['\x22'] ∧
        decodeQuery (inside ++ ['\x22']) = some (v.toList, [])) ∧
    (∀ (t u : Table) (o p : Options), t.mode = .cached → (u.mode = .cached → ¬ SameQuery t u o p) →
      render (partitionSource t o) ≠ render (partitionSource u p)) ∧
    (∀ (t u : Table) (o p : Options), t.mode = .directConnection → u.mode = .directConnection →
      OneLineEntity t o → OneLineEntity u p → ¬ SameEntity t u o p →
      render (partitionSource t o) ≠ render (partitionSource u p)) ∧
    ∀ (m : Model) (ws : List Warning) (o : Options), validate m = .ok ws → OneLine o.defaultSchema.toList →
      ∀ t ∈ m.tables, t.mode = .directConnection → OneLineEntity t o := by
  refine ⟨literalRead, fun t u o p left differ same => ?_, fun t u o p left right flat flat' differ same => ?_,
    fun m ws o accepted plain t member direct => ?_⟩
  · cases right : u.mode with
    | cached => exact differ right (sameQuery left right same)
    | directConnection => exact modesApart left right same
  · exact differ (sameEntity left right flat flat' same)
  · exact legalEntity (validateOk.mp ⟨ws, accepted⟩) plain member direct

def tabbed : Table := { name := "Sales", source := some "a\tb" }

def spelled : Table := { name := "Sales", source := some " a\x23(tab)b " }

def factSales : Table := { name := "Sales", mode := .directConnection, source := some "Fact" }

def factStock : Table :=
  { name := "Stock", mode := .directConnection, source := some "Fact", schema := some "a", connection := some "x" }

def facts : Model := { name := "Shop", tables := [factSales, factStock] }

theorem sourcesTold : ¬ SameQuery tabbed spelled {} {} ∧
    render (partitionSource tabbed {}) ≠ render (partitionSource spelled {}) ∧
    (∃ ws, validate facts = .ok ws) ∧ ¬ SameEntity factSales factStock {} {} ∧
    render (partitionSource factSales {}) ≠ render (partitionSource factStock {}) := by
  have queries : ¬ SameQuery tabbed spelled {} {} := fun same => absurd same.query (by decide)
  have entities : ¬ SameEntity factSales factStock {} {} := fun same => absurd same.schema (by decide)
  have accepted : validate facts = .ok (warnings facts) := by decide
  have flat := literalsExact.2.2.2 facts _ {} accepted (by decide)
  exact ⟨queries, literalsExact.2.1 tabbed spelled {} {} rfl fun _ => queries, ⟨_, accepted⟩, entities,
    literalsExact.2.2.1 factSales factStock {} {} rfl rfl (flat _ (by simp [facts]) rfl)
      (flat _ (by simp [facts]) rfl) entities⟩

def resourceful : Options := { defaultSchema := "a\n\t\t\tresourceId: x" }

theorem schemasMeet : (∃ ws, validate facts = .ok ws) ∧ factSales ∈ facts.tables ∧ factStock ∈ facts.tables ∧
    effectiveSchema factSales resourceful ≠ effectiveSchema factStock resourceful ∧
    render (partitionSource factSales resourceful) = render (partitionSource factStock resourceful) := by
  have accepted : validate facts = .ok (warnings facts) := by decide
  exact ⟨⟨_, accepted⟩, by simp [facts], by simp [facts], by decide, by decide⟩

end Tabular.Definition

import Mathlib.Data.List.Perm.Basic
import Tabular.Proofs.Validation.Legal

/-! The verdict on a model: exactly the legal ones pass, and a fault belongs to the first stage whose condition fails.
Endpoints are judged by the first table of a name, which shows only in models that have two tables of one name. So the
order of the declarations does not matter: once names are known to be distinct, that is the same table in any order. -/
namespace Tabular.Validation

theorem verdictExact (m : Model) :
    ((∃ ws, validate m = .ok ws) ↔ Legal m) ∧
    ∀ f, validate m = .error f → ∃ before s after, Stage.inOrder = before ++ s :: after ∧
      (∀ e ∈ before, e.Holds m) ∧ ¬ s.Holds m ∧ Blames m s f :=
  ⟨validateOk, fun _ failed => faultSome (validateError.mp failed)⟩

def twins : Model where
  name := "Shop"
  tables := [{ name := "Sales", columns := [{ name := "Amount" }] },
    { name := "Sales", columns := [{ name := "Key" }] }]
  relationships := [⟨"Sales", "Key", "Sales", "Key", .manyToOne, .single, none, true⟩]

theorem twinsBlamedForEndpoint :
    LegalNames twins ∧ LegalValues twins ∧ LegalModes twins ∧ BothEnds Declared twins ∧
    ¬ DistinctNames twins ∧
    ∃ f, validate twins = .error f ∧ Blames twins .endpoints f ∧ ¬ Blames twins .distinct f := by
  have names : LegalNames twins := nameFaultNone.mp (by decide)
  have values : LegalValues twins := propertyFaultNone.mp (by decide)
  have modes : LegalModes twins := modeFaultNone.mp (by decide)
  have declared : BothEnds Declared twins := by
    simp [BothEnds, Declared, Table.columnNames, twins]
  have clash : ¬ DistinctNames twins := fun distinct => by
    have := distinct.tables
    revert this; decide
  have found : relationshipFault? twins =
      some (.unresolved "relationship Sales[Key] -> Sales[Key]" "column Sales[Key]") := by decide
  refine ⟨names, values, modes, declared, clash, _, ?_, relationshipFaultBlames found, ?_⟩
  · decide
  · intro blames
    cases blames

structure RearrangedTable (t u : Table) : Prop where
  name : t.name = u.name
  schema : t.schema = u.schema
  mode : t.mode = u.mode
  description : t.description = u.description
  source : t.source = u.source
  connection : t.connection = u.connection
  columns : t.columns.Perm u.columns
  calculatedColumns : t.calculatedColumns.Perm u.calculatedColumns
  measures : t.measures.Perm u.measures

structure Rearranged (m m' : Model) : Prop where
  name : m.name = m'.name
  description : m.description = m'.description
  tables : ∃ ts, m.tables.Perm ts ∧ List.Forall₂ RearrangedTable ts m'.tables
  measures : m.measures.Perm m'.measures
  relationships : m.relationships.Perm m'.relationships
  hierarchies : m.hierarchies.Perm m'.hierarchies
  roles : m.roles.Perm m'.roles

namespace RearrangedTable
variable {t u : Table}

theorem symm (same : RearrangedTable t u) : RearrangedTable u t where
  name := same.name.symm
  schema := same.schema.symm
  mode := same.mode.symm
  description := same.description.symm
  source := same.source.symm
  connection := same.connection.symm
  columns := same.columns.symm
  calculatedColumns := same.calculatedColumns.symm
  measures := same.measures.symm

variable (same : RearrangedTable t u)
include same

theorem columnNames : t.columnNames.Perm u.columnNames :=
  (same.columns.map _).append (same.calculatedColumns.map _)

theorem hasColumn (name : String) : t.hasColumn name = u.hasColumn name := by
  rw [Bool.eq_iff_iff, Table.hasColumn, Table.hasColumn, List.contains_iff_mem, List.contains_iff_mem]
  exact same.columnNames.mem_iff

theorem names (legal : LegalTableNames t) : LegalTableNames u where
  table := same.name ▸ legal.table
  columns c member := legal.columns c (same.columns.mem_iff.mpr member)
  calculatedColumns c member := legal.calculatedColumns c (same.calculatedColumns.mem_iff.mpr member)
  measures x member := legal.measures x (same.measures.mem_iff.mpr member)

theorem values (legal : LegalTableValues t) : LegalTableValues u where
  schema := same.schema ▸ legal.schema
  connection := same.connection ▸ legal.connection
  entity := same.mode ▸ same.source ▸ legal.entity
  columns c member := legal.columns c (same.columns.mem_iff.mpr member)

theorem warnings : (tableWarnings t).Perm (tableWarnings u) := by
  have empty : t.columns = [] ↔ u.columns = [] := by
    rw [← List.length_eq_zero_iff, ← List.length_eq_zero_iff, same.columns.length_eq]
  have asked : (fun x : Measure => t.hasColumn x.name) = fun x => u.hasColumn x.name :=
    funext fun x => same.hasColumn x.name
  unfold tableWarnings
  simp only [same.name, same.mode, same.connection, empty, asked]
  exact ((same.measures.filter _).map _).append_left _

end RearrangedTable

theorem rearrangedMember {ts us : List Table} (same : List.Forall₂ RearrangedTable ts us) {t : Table}
    (member : t ∈ ts) : ∃ u ∈ us, RearrangedTable t u := by
  induction same with
  | nil => cases member
  | cons first _ ih =>
    rcases List.mem_cons.mp member with rfl | later
    · exact ⟨_, List.mem_cons_self, first⟩
    · obtain ⟨u, inside, one⟩ := ih later
      exact ⟨u, List.mem_cons_of_mem _ inside, one⟩

theorem flatMapRearranged {α : Type} {f : Table → List α}
    (each : ∀ {t u}, RearrangedTable t u → (f t).Perm (f u)) {ts us : List Table}
    (same : List.Forall₂ RearrangedTable ts us) : (ts.flatMap f).Perm (us.flatMap f) := by
  induction same with
  | nil => exact .nil
  | cons first _ ih =>
    rw [List.flatMap_cons, List.flatMap_cons]
    exact (each first).append ih

namespace Rearranged
variable {m m' : Model}

theorem symm (same : Rearranged m m') : Rearranged m' m := by
  obtain ⟨ts, perm, each⟩ := same.tables
  obtain ⟨us, paired, back⟩ := List.perm_comp_forall₂ perm each
  have flipped : List.Forall₂ RearrangedTable us m.tables := paired.flip.imp fun _ _ one => one.symm
  exact ⟨same.name.symm, same.description.symm, ⟨us, back.symm, flipped⟩, same.measures.symm,
    same.relationships.symm, same.hierarchies.symm, same.roles.symm⟩

variable (same : Rearranged m m')
include same

theorem table {t : Table} (member : t ∈ m.tables) : ∃ u ∈ m'.tables, RearrangedTable t u := by
  obtain ⟨ts, perm, each⟩ := same.tables
  exact rearrangedMember each (perm.mem_iff.mp member)

theorem tableOrigin {u : Table} (member : u ∈ m'.tables) : ∃ t ∈ m.tables, RearrangedTable t u := by
  obtain ⟨t, inside, back⟩ := same.symm.table member
  exact ⟨t, inside, back.symm⟩

theorem tablesFlatMap {α : Type} {f : Table → List α}
    (each : ∀ {t u}, RearrangedTable t u → (f t).Perm (f u)) : (m.tables.flatMap f).Perm (m'.tables.flatMap f) := by
  obtain ⟨ts, perm, paired⟩ := same.tables
  exact (perm.flatMap_right f).trans (flatMapRearranged each paired)

theorem allMeasures : m.allMeasures.Perm m'.allMeasures :=
  (same.tablesFlatMap fun one => one.measures).append same.measures

theorem tableNames : (m.tables.map (·.name)).Perm (m'.tables.map (·.name)) := by
  rw [List.map_eq_flatMap, List.map_eq_flatMap]
  exact same.tablesFlatMap fun one => by rw [one.name]

theorem tableNamed {n : String} (found : ∃ t ∈ m.tables, t.name = n) : ∃ u ∈ m'.tables, u.name = n := by
  obtain ⟨t, member, rfl⟩ := found
  obtain ⟨u, inside, one⟩ := same.table member
  exact ⟨u, inside, one.name.symm⟩

theorem declared {table column : String} (h : Declared m table column) : Declared m' table column := by
  obtain ⟨t, member, rfl, has⟩ := h
  obtain ⟨u, inside, one⟩ := same.table member
  exact ⟨u, inside, one.name.symm, one.columnNames.mem_iff.mp has⟩

theorem legalNames (legal : LegalNames m) : LegalNames m' where
  model := same.name ▸ legal.model
  tables u member := by
    obtain ⟨t, inside, one⟩ := same.tableOrigin member
    exact one.names (legal.tables t inside)
  measures x member := legal.measures x (same.measures.mem_iff.mpr member)
  hierarchies h member := legal.hierarchies h (same.hierarchies.mem_iff.mpr member)
  levels h member := legal.levels h (same.hierarchies.mem_iff.mpr member)
  roles r member := legal.roles r (same.roles.mem_iff.mpr member)

theorem legalValues (legal : LegalValues m) : LegalValues m' where
  tables u member := by
    obtain ⟨t, inside, one⟩ := same.tableOrigin member
    exact one.values (legal.tables t inside)
  tableMeasures u member x mem := by
    obtain ⟨t, inside, one⟩ := same.tableOrigin member
    exact legal.tableMeasures t inside x (one.measures.mem_iff.mpr mem)
  measures x member := legal.measures x (same.measures.mem_iff.mpr member)

theorem legalModes (legal : LegalModes m) : LegalModes m' := by
  intro u member direct
  obtain ⟨t, inside, one⟩ := same.tableOrigin member
  have none := legal t inside (one.mode.trans direct)
  exact List.nil_perm.mp (none ▸ one.calculatedColumns)

theorem distinctNames (distinct : DistinctNames m) : DistinctNames m' where
  tables := same.tableNames.nodup_iff.mp distinct.tables
  columns u member := by
    obtain ⟨t, inside, one⟩ := same.tableOrigin member
    exact one.columnNames.nodup_iff.mp (distinct.columns t inside)
  measures := (same.allMeasures.map _).nodup_iff.mp distinct.measures
  roles := (same.roles.map _).nodup_iff.mp distinct.roles

theorem legal (legal : Legal m) : Legal m' where
  names := same.legalNames legal.names
  values := same.legalValues legal.values
  modes := same.legalModes legal.modes
  endpoints r member := by
    obtain ⟨left, right⟩ := legal.endpoints r (same.relationships.mem_iff.mpr member)
    exact ⟨same.declared left, same.declared right⟩
  distinct := same.distinctNames legal.distinct
  hierarchies h member := by
    have before := legal.hierarchies h (same.hierarchies.mem_iff.mpr member)
    exact ⟨before.levels, fun n owner => same.tableNamed (before.table n owner)⟩

theorem tableKnown (n : String) : (m.table? n).isNone = (m'.table? n).isNone := by
  have found : (m.table? n).isSome = (m'.table? n).isSome := by
    rw [Bool.eq_iff_iff, tableIsSome, tableIsSome]
    exact ⟨same.tableNamed, same.symm.tableNamed⟩
  rw [← Option.not_isSome, ← Option.not_isSome, found]

end Rearranged

theorem levelResolvesIff {m : Model} (distinct : (m.tables.map (·.name)).Nodup) {h : Hierarchy} {level : String} :
    levelResolves m h level = true ↔ ∃ table, (∀ n ∈ h.table, table = n) ∧ Declared m table level := by
  unfold levelResolves
  cases owner : h.table with
  | none => simp [Table.hasColumn, Declared]
  | some n =>
    have first : (m.table? n).any (·.hasColumn level) = true ↔ Resolves m n level := by
      simp [Resolves, Table.hasColumn, Option.any_eq_true]
    simp only [first, Option.mem_def, Option.some.injEq, forall_eq']
    constructor
    · intro resolves
      exact ⟨n, rfl, resolvesDeclared resolves⟩
    · rintro ⟨_, rfl, declared⟩
      exact declaredResolves distinct declared

section Warnings
variable {m m' : Model} (same : Rearranged m m')
include same

theorem hierarchyRearranged (distinct : DistinctNames m) : hierarchyWarnings m = hierarchyWarnings m' := by
  have later := same.distinctNames distinct
  have resolves (h : Hierarchy) (level : String) : levelResolves m h level = levelResolves m' h level := by
    rw [Bool.eq_iff_iff, levelResolvesIff distinct.tables, levelResolvesIff later.tables]
    exact exists_congr fun table => and_congr_right fun _ => ⟨same.declared, same.symm.declared⟩
  funext h
  simp only [hierarchyWarnings, resolves]

theorem roleRearranged : roleWarnings m = roleWarnings m' := by
  funext r
  simp only [roleWarnings, same.tableKnown]

theorem warningsRearranged (distinct : DistinctNames m) : (warnings m).Perm (warnings m') := by
  unfold warnings
  rw [hierarchyRearranged same distinct, roleRearranged same]
  exact ((same.tablesFlatMap fun one => one.warnings).append (same.hierarchies.flatMap_right _)).append
    (same.roles.flatMap_right _)

end Warnings

theorem orderUnseen {m m' : Model} (same : Rearranged m m') :
    ((∃ ws, validate m = .ok ws) ↔ ∃ ws, validate m' = .ok ws) ∧
    ∀ ws ws', validate m = .ok ws → validate m' = .ok ws' → ws.Perm ws' := by
  refine ⟨?_, fun ws ws' passed passed' => ?_⟩
  · rw [validateOk, validateOk]
    exact ⟨same.legal, same.symm.legal⟩
  · have distinct := (validateOk.mp ⟨ws, passed⟩).distinct
    rw [validateWarnings passed, validateWarnings passed']
    exact warningsRearranged same distinct

def shelved : Model where
  name := "Shop"
  tables :=
    [{ name := "Sales", columns := [{ name := "Amount" }, { name := "Key" }],
       calculatedColumns := [{ name := "Net", expression := "1" }, { name := "Tax", expression := "2" }],
       measures := [{ name := "Net", expression := "3" }, { name := "Key", expression := "4" }] },
      { name := "Stock", mode := .directConnection, columns := [{ name := "Key" }] }, { name := "Empty" }]
  measures := [{ name := "Mean", expression := "5" }, { name := "Total", expression := "6" }]
  relationships := [⟨"Sales", "Key", "Stock", "Key", .manyToOne, .single, none, true⟩,
    ⟨"Sales", "Tax", "Stock", "Key", .manyToOne, .single, none, false⟩]
  hierarchies := [{ name := "Time", levels := ["Year", "Tax"] },
    { name := "Goods", levels := ["Net", "Key"], table := some "Stock" }]
  roles := [{ name := "Clerk", permissions := [⟨"Sales", "7"⟩, ⟨"Nowhere", "8"⟩] }, { name := "Guest" }]

def reshelved : Model where
  name := "Shop"
  tables :=
    [{ name := "Empty" }, { name := "Stock", mode := .directConnection, columns := [{ name := "Key" }] },
      { name := "Sales", columns := [{ name := "Key" }, { name := "Amount" }],
        calculatedColumns := [{ name := "Tax", expression := "2" }, { name := "Net", expression := "1" }],
        measures := [{ name := "Key", expression := "4" }, { name := "Net", expression := "3" }] }]
  measures := shelved.measures.reverse
  relationships := shelved.relationships.reverse
  hierarchies := shelved.hierarchies.reverse
  roles := shelved.roles.reverse

theorem reshelvedUnseen : Rearranged shelved reshelved ∧ ∃ ws ws', validate shelved = .ok ws ∧
    validate reshelved = .ok ws' ∧ ws.Perm ws' ∧ ws.length = 7 ∧ ws ≠ ws' := by
  have same : Rearranged shelved reshelved := by
    refine ⟨rfl, rfl, ⟨_, shelved.tables.reverse_perm.symm, ?_⟩, ?_, ?_, ?_, ?_⟩
    · have alike (t : Table) : RearrangedTable t t := ⟨rfl, rfl, rfl, rfl, rfl, rfl, .rfl, .rfl, .rfl⟩
      refine .cons (alike _) (.cons (alike _) (.cons ?_ .nil))
      exact ⟨rfl, rfl, rfl, rfl, rfl, rfl, .swap .., .swap .., .swap ..⟩
    all_goals exact (List.reverse_perm _).symm
  have passed : validate shelved = .ok (warnings shelved) := by decide
  obtain ⟨ws, passed'⟩ := (orderUnseen same).1.mp ⟨_, passed⟩
  refine ⟨same, _, _, passed, passed', (orderUnseen same).2 _ _ passed passed', by decide, ?_⟩
  rw [validateWarnings passed']
  decide

end Tabular.Validation

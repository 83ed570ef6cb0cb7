import Mathlib.Data.List.Nodup
import Tabular.Validation.Check

/-! What makes a model legal, said of its objects and not of the order in which faults are looked
for. Each stage of the check is tied to one condition, and a fault to the object it is about. -/
namespace Tabular.Validation
open Unicode

def Plain (s : String) : Prop := ∀ c ∈ s.toList, isControl c = false

def LegalName (s : String) : Prop := (∃ c ∈ s.toList, isBlank c = false) ∧ Plain s

structure LegalTableNames (t : Table) : Prop where
  table : LegalName t.name
  columns : ∀ c ∈ t.columns, LegalName c.name
  calculatedColumns : ∀ c ∈ t.calculatedColumns, LegalName c.name
  measures : ∀ x ∈ t.measures, LegalName x.name

structure LegalRoleNames (r : Role) : Prop where
  role : LegalName r.name
  permissions : ∀ p ∈ r.permissions, LegalName p.table
  members : ∀ x ∈ r.members, LegalName x

structure LegalNames (m : Model) : Prop where
  model : LegalName m.name
  tables : ∀ t ∈ m.tables, LegalTableNames t
  measures : ∀ x ∈ m.measures, LegalName x.name
  hierarchies : ∀ h ∈ m.hierarchies, LegalName h.name
  levels : ∀ h ∈ m.hierarchies, ∀ l ∈ h.levels, LegalName l
  roles : ∀ r ∈ m.roles, LegalRoleNames r

structure LegalTableValues (t : Table) : Prop where
  schema : ∀ v ∈ t.schema, Plain v
  connection : ∀ v ∈ t.connection, Plain v
  entity : t.mode = .directConnection → ∀ v ∈ t.source, Plain v
  columns : ∀ c ∈ t.columns, ∀ v ∈ c.formatString, Plain v

structure LegalMeasureValues (x : Measure) : Prop where
  formatString : ∀ v ∈ x.formatString, Plain v
  displayFolder : ∀ v ∈ x.displayFolder, Plain v

structure LegalValues (m : Model) : Prop where
  tables : ∀ t ∈ m.tables, LegalTableValues t
  tableMeasures : ∀ t ∈ m.tables, ∀ x ∈ t.measures, LegalMeasureValues x
  measures : ∀ x ∈ m.measures, LegalMeasureValues x

def LegalModes (m : Model) : Prop :=
  ∀ t ∈ m.tables, t.mode = .directConnection → t.calculatedColumns = []

def Declared (m : Model) (table column : String) : Prop :=
  ∃ t ∈ m.tables, t.name = table ∧ column ∈ t.columnNames

def Resolves (m : Model) (table column : String) : Prop :=
  ∃ t, m.table? table = some t ∧ column ∈ t.columnNames

def BothEnds (reaches : Model → String → String → Prop) (m : Model) : Prop :=
  ∀ r ∈ m.relationships, reaches m r.fromTable r.fromColumn ∧ reaches m r.toTable r.toColumn

structure DistinctNames (m : Model) : Prop where
  tables : (m.tables.map (·.name)).Nodup
  columns : ∀ t ∈ m.tables, t.columnNames.Nodup
  measures : (m.allMeasures.map (·.name)).Nodup
  roles : (m.roles.map (·.name)).Nodup

structure LegalHierarchy (m : Model) (h : Hierarchy) : Prop where
  levels : h.levels ≠ []
  table : ∀ n ∈ h.table, ∃ t ∈ m.tables, t.name = n

structure Legal (m : Model) : Prop where
  names : LegalNames m
  values : LegalValues m
  modes : LegalModes m
  endpoints : BothEnds Declared m
  distinct : DistinctNames m
  hierarchies : ∀ h ∈ m.hierarchies, LegalHierarchy m h

inductive Stage where
  | names
  | values
  | modes
  | endpoints
  | distinct
  | hierarchies
  deriving DecidableEq, Repr

def Stage.inOrder : List Stage := [.names, .values, .modes, .endpoints, .distinct, .hierarchies]

/-- An endpoint is looked up before names are known to be distinct, so only the first table of a
name counts. -/
def Stage.Holds (m : Model) : Stage → Prop
  | .names => LegalNames m
  | .values => LegalValues m
  | .modes => LegalModes m
  | .endpoints => BothEnds Resolves m
  | .distinct => DistinctNames m
  | .hierarchies => ∀ h ∈ m.hierarchies, LegalHierarchy m h

def Stage.check : Stage → Model → Option Fault
  | .names => nameFault?
  | .values => propertyFault?
  | .modes => modeFault?
  | .endpoints => relationshipFault?
  | .distinct => duplicateFault?
  | .hierarchies => hierarchyFault?

theorem stagesInOrder : stages = Stage.inOrder.map Stage.check := rfl

def Repeated (x : String) (l : List String) : Prop :=
  ∃ before after, l = before ++ x :: after ∧ x ∈ before

def IsEnd (r : Relationship) (table column : String) : Prop :=
  (table = r.fromTable ∧ column = r.fromColumn) ∨ (table = r.toTable ∧ column = r.toColumn)

inductive Blames (m : Model) : Stage → Fault → Prop where
  | emptyName {kind name} (member : (kind, name) ∈ names m)
      (empty : ∀ c ∈ name.toList, isBlank c = true) : Blames m .names (.invalidName kind name .empty)
  | controlInName {kind name} (member : (kind, name) ∈ names m) (control : ¬ Plain name) :
      Blames m .names (.invalidName kind name .control)
  | controlInValue {v value} (member : v ∈ lineValues m) (present : v.value = some value)
      (control : ¬ Plain value) : Blames m .values (.invalidProperty v.object v.property)
  | calculatedColumn {t c} (member : t ∈ m.tables) (direct : t.mode = .directConnection)
      (has : c ∈ t.calculatedColumns) : Blames m .modes (.incompatibleMode t.name c.name)
  | noTable {r table column} (member : r ∈ m.relationships) (isEnd : IsEnd r table column)
      (absent : ∀ t ∈ m.tables, t.name ≠ table) :
      Blames m .endpoints (.unresolved (relationshipContext r) ("table " ++ table))
  | noColumn {r table column t} (member : r ∈ m.relationships)
      (isEnd : IsEnd r table column) (first : m.table? table = some t)
      (absent : column ∉ t.columnNames) :
      Blames m .endpoints
        (.unresolved (relationshipContext r) ("column " ++ qualify (some table) column))
  | tableTwice {n} (twice : Repeated n (m.tables.map (·.name))) :
      Blames m .distinct (.duplicateName .table n)
  | columnTwice {t n} (member : t ∈ m.tables) (twice : Repeated n t.columnNames) :
      Blames m .distinct (.duplicateName .column (qualify (some t.name) n))
  | measureTwice {n} (twice : Repeated n (m.allMeasures.map (·.name))) :
      Blames m .distinct (.duplicateName .measure n)
  | roleTwice {n} (twice : Repeated n (m.roles.map (·.name))) :
      Blames m .distinct (.duplicateName .role n)
  | noLevels {h} (member : h ∈ m.hierarchies) (empty : h.levels = []) :
      Blames m .hierarchies (.emptyHierarchy h.name)
  | noOwner {h n} (member : h ∈ m.hierarchies) (owner : h.table = some n)
      (absent : ∀ t ∈ m.tables, t.name ≠ n) :
      Blames m .hierarchies (.unresolved ("hierarchy " ++ h.name) ("table " ++ n))

theorem hasControlPlain {s : String} : hasControl s = false ↔ Plain s := by
  simp [hasControl, Plain]

theorem nameDefectNone {s : String} : nameDefect? s = none ↔ LegalName s := by
  unfold nameDefect? LegalName
  rw [← hasControlPlain]
  split
  · rename_i empty
    have none : ¬ ∃ c ∈ s.toList, isBlank c = false := by simpa using empty
    simp [none]
  · rename_i filled
    have some : ∃ c ∈ s.toList, isBlank c = false := by simpa using filled
    cases h : hasControl s <;> simp [some]

theorem tableNamesLegal {t : Table} : (∀ n ∈ tableNames t, LegalName n.2) ↔ LegalTableNames t := by
  simp only [tableNames, List.forall_mem_append, List.forall_mem_cons, List.forall_mem_map]
  constructor
  · rintro ⟨⟨⟨table, columns⟩, calculated⟩, measures⟩
    exact ⟨table, columns, calculated, measures⟩
  · rintro ⟨table, columns, calculated, measures⟩
    exact ⟨⟨⟨table, columns⟩, calculated⟩, measures⟩

theorem roleNamesLegal {r : Role} : (∀ n ∈ roleNames r, LegalName n.2) ↔ LegalRoleNames r := by
  simp only [roleNames, List.forall_mem_append, List.forall_mem_cons, List.forall_mem_map]
  constructor
  · rintro ⟨⟨role, permissions⟩, members⟩
    exact ⟨role, permissions, members⟩
  · rintro ⟨role, permissions, members⟩
    exact ⟨⟨role, permissions⟩, members⟩

theorem namesLegal {m : Model} : (∀ n ∈ names m, LegalName n.2) ↔ LegalNames m := by
  simp only [names, List.forall_mem_append, List.forall_mem_cons, List.forall_mem_map,
    List.forall_mem_flatMap, tableNamesLegal, roleNamesLegal]
  constructor
  · rintro ⟨⟨⟨⟨model, tables⟩, measures⟩, hierarchies⟩, roles⟩
    exact ⟨model, tables, measures, fun h mem => (hierarchies h mem).1,
      fun h mem => (hierarchies h mem).2, roles⟩
  · rintro ⟨model, tables, measures, hierarchies, levels, roles⟩
    exact ⟨⟨⟨⟨model, tables⟩, measures⟩, fun h mem => ⟨hierarchies h mem, levels h mem⟩⟩, roles⟩

theorem nameFaultNone {m : Model} : nameFault? m = none ↔ LegalNames m := by
  simp only [nameFault?, List.findSome?_eq_none_iff, Option.map_eq_none_iff, nameDefectNone,
    namesLegal]

theorem nameFaultBlames {m : Model} {f : Fault} (found : nameFault? m = some f) :
    Blames m .names f := by
  obtain ⟨⟨kind, name⟩, member, found⟩ := List.exists_of_findSome?_eq_some found
  obtain ⟨defect, broken, rfl⟩ := Option.map_eq_some_iff.mp found
  unfold nameDefect? at broken
  split at broken
  · rename_i empty
    cases broken
    exact .emptyName member (List.all_eq_true.mp empty)
  · split at broken
    · rename_i control
      cases broken
      exact .controlInName member fun plain => by simp [hasControlPlain.mpr plain] at control
    · contradiction

def LegalValue (v : LineValue) : Prop := ∀ s ∈ v.value, Plain s

theorem tableValuesLegal {t : Table} :
    (∀ v ∈ tableValues t, LegalValue v) ↔ LegalTableValues t := by
  have entity : (∀ v ∈ (if t.mode = .directConnection then
        [(⟨"table " ++ t.name, .source, t.source⟩ : LineValue)] else []), LegalValue v) ↔
      (t.mode = .directConnection → ∀ s ∈ t.source, Plain s) := by
    split <;> simp [LegalValue, *]
  simp only [tableValues, List.forall_mem_append, List.forall_mem_cons, List.forall_mem_map, entity]
  constructor
  · rintro ⟨⟨⟨schema, connection, _⟩, source⟩, columns⟩
    exact ⟨schema, connection, source, columns⟩
  · rintro ⟨schema, connection, source, columns⟩
    exact ⟨⟨⟨schema, connection, by simp⟩, source⟩, columns⟩

theorem measureValuesLegal {x : Measure} :
    (∀ v ∈ measureValues x, LegalValue v) ↔ LegalMeasureValues x := by
  simp only [measureValues, List.forall_mem_cons]
  constructor
  · rintro ⟨format, folder, _⟩
    exact ⟨format, folder⟩
  · rintro ⟨format, folder⟩
    exact ⟨format, folder, by simp⟩

theorem lineValuesLegal {m : Model} : (∀ v ∈ lineValues m, LegalValue v) ↔ LegalValues m := by
  simp only [lineValues, Model.allMeasures, List.forall_mem_append, List.forall_mem_flatMap,
    List.flatMap_append, List.flatMap_assoc, tableValuesLegal, measureValuesLegal]
  constructor
  · rintro ⟨tables, ofTables, ofModel⟩
    exact ⟨tables, ofTables, ofModel⟩
  · rintro ⟨tables, ofTables, ofModel⟩
    exact ⟨tables, ofTables, ofModel⟩

theorem legalValueIff {v : LineValue} : v.value.any hasControl = false ↔ LegalValue v := by
  cases h : v.value <;> simp [LegalValue, h, hasControlPlain]

theorem propertyFaultNone {m : Model} : propertyFault? m = none ↔ LegalValues m := by
  simp only [propertyFault?, List.findSome?_eq_none_iff, ite_eq_right_iff, reduceCtorEq, imp_false,
    Bool.not_eq_true, legalValueIff, lineValuesLegal]

theorem propertyFaultBlames {m : Model} {f : Fault} (found : propertyFault? m = some f) :
    Blames m .values f := by
  obtain ⟨v, member, found⟩ := List.exists_of_findSome?_eq_some found
  split at found <;> try contradiction
  rename_i control
  cases Option.some.inj found
  cases present : v.value with
  | none => simp [present] at control
  | some value =>
    have broken : hasControl value = true := by simpa [present] using control
    exact .controlInValue member present fun plain => by
      simp [hasControlPlain.mpr plain] at broken

theorem modeFaultNone {m : Model} : modeFault? m = none ↔ LegalModes m := by
  simp only [modeFault?, List.findSome?_eq_none_iff, LegalModes]
  refine forall₂_congr fun t member => ?_
  cases t.mode <;> simp [TableMode.supportsCalculatedColumns]

theorem modeFaultBlames {m : Model} {f : Fault} (found : modeFault? m = some f) :
    Blames m .modes f := by
  obtain ⟨t, member, found⟩ := List.exists_of_findSome?_eq_some found
  split at found <;> try contradiction
  rename_i unsupported
  obtain ⟨c, first, rfl⟩ := Option.map_eq_some_iff.mp found
  have direct : t.mode = .directConnection := by
    cases h : t.mode
    · rfl
    · simp [h, TableMode.supportsCalculatedColumns] at unsupported
  exact .calculatedColumn member direct (List.mem_of_mem_head? first)

theorem tableNone {m : Model} {n : String} : m.table? n = none ↔ ∀ t ∈ m.tables, t.name ≠ n := by
  simp [Model.table?]

theorem tableSome {m : Model} {n : String} {t : Table} (found : m.table? n = some t) :
    t ∈ m.tables ∧ t.name = n :=
  ⟨List.mem_of_find?_eq_some found, by simpa using List.find?_some found⟩

theorem endpointFaultNone {m : Model} {context table column : String} :
    endpointFault? m context table column = none ↔ Resolves m table column := by
  unfold endpointFault? Resolves
  split
  · simp [*]
  · simp [*, Table.hasColumn]

theorem endpointFaultBlames {m : Model} {r : Relationship} {table column : String} {f : Fault}
    (member : r ∈ m.relationships) (isEnd : IsEnd r table column)
    (found : endpointFault? m (relationshipContext r) table column = some f) :
    Blames m .endpoints f := by
  unfold endpointFault? at found
  split at found
  · rename_i absent
    cases found
    exact .noTable member isEnd (tableNone.mp absent)
  · rename_i t first
    split at found <;> try contradiction
    rename_i absent
    cases found
    exact .noColumn member isEnd first (by simpa [Table.hasColumn] using absent)

theorem relationshipFaultNone {m : Model} : relationshipFault? m = none ↔ BothEnds Resolves m := by
  simp only [relationshipFault?, List.findSome?_eq_none_iff, Option.or_eq_none_iff,
    endpointFaultNone, BothEnds]

theorem relationshipFaultBlames {m : Model} {f : Fault} (found : relationshipFault? m = some f) :
    Blames m .endpoints f := by
  obtain ⟨r, member, found⟩ := List.exists_of_findSome?_eq_some found
  rcases Option.or_eq_some_iff.mp found with found | ⟨_, found⟩
  · exact endpointFaultBlames member (.inl ⟨rfl, rfl⟩) found
  · exact endpointFaultBlames member (.inr ⟨rfl, rfl⟩) found

theorem firstRepeatedGoNone {l seen : List String} :
    firstRepeated?.go seen l = none ↔ l.Nodup ∧ ∀ x ∈ l, x ∉ seen := by
  induction l generalizing seen with
  | nil => simp [firstRepeated?.go]
  | cons x rest ih =>
    simp only [firstRepeated?.go, List.contains_iff_mem]
    split
    · simp_all
    · rename_i fresh
      rw [ih, List.nodup_cons, List.forall_mem_cons]
      simp only [List.mem_cons, not_or]
      constructor
      · rintro ⟨distinct, apart⟩
        exact ⟨⟨fun mem => (apart x mem).1 rfl, distinct⟩, fresh, fun y mem => (apart y mem).2⟩
      · rintro ⟨⟨absent, distinct⟩, _, apart⟩
        exact ⟨distinct, fun y mem => ⟨fun same => absent (same ▸ mem), apart y mem⟩⟩

theorem firstRepeatedNone {l : List String} : firstRepeated? l = none ↔ l.Nodup := by
  simp [firstRepeated?, firstRepeatedGoNone]

theorem firstRepeatedGoSome {l seen : List String} {x : String}
    (found : firstRepeated?.go seen l = some x) :
    ∃ before after, l = before ++ x :: after ∧ (x ∈ seen ∨ x ∈ before) := by
  induction l generalizing seen with
  | nil => contradiction
  | cons y rest ih =>
    simp only [firstRepeated?.go, List.contains_iff_mem] at found
    split at found
    · rename_i mem
      cases found
      exact ⟨[], rest, rfl, .inl mem⟩
    · obtain ⟨before, after, rfl, mem⟩ := ih found
      refine ⟨y :: before, after, rfl, ?_⟩
      simp only [List.mem_cons] at mem ⊢
      grind

theorem firstRepeatedSome {l : List String} {x : String} (found : firstRepeated? l = some x) :
    Repeated x l := by
  obtain ⟨before, after, split, mem⟩ := firstRepeatedGoSome found
  exact ⟨before, after, split, by simpa using mem⟩

theorem duplicateFaultNone {m : Model} : duplicateFault? m = none ↔ DistinctNames m := by
  simp only [duplicateFault?, Option.or_eq_none_iff, Option.map_eq_none_iff,
    List.findSome?_eq_none_iff, firstRepeatedNone]
  constructor
  · rintro ⟨tables, columns, measures, roles⟩
    exact ⟨tables, columns, measures, roles⟩
  · rintro ⟨tables, columns, measures, roles⟩
    exact ⟨tables, columns, measures, roles⟩

theorem duplicateFaultBlames {m : Model} {f : Fault} (found : duplicateFault? m = some f) :
    Blames m .distinct f := by
  simp only [duplicateFault?, Option.or_eq_some_iff, Option.map_eq_some_iff] at found
  rcases found with ⟨n, twice, rfl⟩ | ⟨_, found | ⟨_, ⟨n, twice, rfl⟩ | ⟨_, n, twice, rfl⟩⟩⟩
  · exact .tableTwice (firstRepeatedSome twice)
  · obtain ⟨t, member, found⟩ := List.exists_of_findSome?_eq_some found
    obtain ⟨n, twice, rfl⟩ := Option.map_eq_some_iff.mp found
    exact .columnTwice member (firstRepeatedSome twice)
  · exact .measureTwice (firstRepeatedSome twice)
  · exact .roleTwice (firstRepeatedSome twice)

theorem tableIsSome {m : Model} {n : String} :
    (m.table? n).isSome = true ↔ ∃ t ∈ m.tables, t.name = n := by
  simp [Model.table?]

theorem hierarchyFaultNone {m : Model} :
    hierarchyFault? m = none ↔ ∀ h ∈ m.hierarchies, LegalHierarchy m h := by
  simp only [hierarchyFault?, List.findSome?_eq_none_iff]
  refine forall₂_congr fun h member => ?_
  split
  · rename_i empty
    simp only [reduceCtorEq, false_iff]
    exact fun legal => legal.levels (List.isEmpty_iff.mp empty)
  · rename_i filled
    have levels : h.levels ≠ [] := by simpa using filled
    cases owner : h.table with
    | none => simpa using ⟨levels, by simp [owner]⟩
    | some n =>
      simp only [tableIsSome, ite_eq_left_iff, reduceCtorEq, imp_false, Decidable.not_not]
      constructor
      · intro found
        exact ⟨levels, by simpa [owner] using found⟩
      · intro legal
        exact legal.table n (by simp [owner])

theorem hierarchyFaultBlames {m : Model} {f : Fault} (found : hierarchyFault? m = some f) :
    Blames m .hierarchies f := by
  obtain ⟨h, member, found⟩ := List.exists_of_findSome?_eq_some found
  split at found
  · rename_i empty
    cases found
    exact .noLevels member (List.isEmpty_iff.mp empty)
  · split at found <;> try contradiction
    rename_i n owner
    split at found <;> try contradiction
    rename_i absent
    cases found
    have none : m.table? n = none := by simpa using absent
    exact .noOwner member owner (tableNone.mp none)

theorem checkNone {m : Model} {s : Stage} : s.check m = none ↔ s.Holds m := by
  cases s
  · exact nameFaultNone
  · exact propertyFaultNone
  · exact modeFaultNone
  · exact relationshipFaultNone
  · exact duplicateFaultNone
  · exact hierarchyFaultNone

theorem checkBlames {m : Model} {s : Stage} {f : Fault} (found : s.check m = some f) :
    Blames m s f := by
  cases s
  · exact nameFaultBlames found
  · exact propertyFaultBlames found
  · exact modeFaultBlames found
  · exact relationshipFaultBlames found
  · exact duplicateFaultBlames found
  · exact hierarchyFaultBlames found

theorem resolvesDeclared {m : Model} {table column : String} (h : Resolves m table column) :
    Declared m table column := by
  obtain ⟨t, found, has⟩ := h
  exact ⟨t, (tableSome found).1, (tableSome found).2, has⟩

theorem declaredResolves {m : Model} {table column : String}
    (distinct : (m.tables.map (·.name)).Nodup) (h : Declared m table column) :
    Resolves m table column := by
  obtain ⟨t, member, rfl, has⟩ := h
  obtain ⟨first, found⟩ := Option.isSome_iff_exists.mp (tableIsSome.mpr ⟨t, member, rfl⟩)
  have same : first = t :=
    List.inj_on_of_nodup_map distinct (tableSome found).1 member (tableSome found).2
  exact ⟨first, found, same ▸ has⟩

theorem faultNone {m : Model} : fault? m = none ↔ Legal m := by
  simp only [fault?, stagesInOrder, List.findSome?_map, List.findSome?_eq_none_iff,
    Function.comp_apply, checkNone, Stage.inOrder, List.forall_mem_cons]
  constructor
  · rintro ⟨names, values, modes, endpoints, distinct, hierarchies, _⟩
    exact ⟨names, values, modes, fun r mem => ⟨resolvesDeclared (endpoints r mem).1,
      resolvesDeclared (endpoints r mem).2⟩, distinct, hierarchies⟩
  · rintro ⟨names, values, modes, endpoints, distinct, hierarchies⟩
    exact ⟨names, values, modes, fun r mem => ⟨declaredResolves distinct.tables (endpoints r mem).1,
      declaredResolves distinct.tables (endpoints r mem).2⟩, distinct, hierarchies, by simp⟩

theorem faultSome {m : Model} {f : Fault} (found : fault? m = some f) :
    ∃ before s after, Stage.inOrder = before ++ s :: after ∧ (∀ e ∈ before, e.Holds m) ∧
      ¬ s.Holds m ∧ Blames m s f := by
  simp only [fault?, stagesInOrder, List.findSome?_map] at found
  obtain ⟨before, s, after, split, blamed, passed⟩ := List.findSome?_eq_some_iff.mp found
  refine ⟨before, s, after, split, fun e mem => checkNone.mp (passed e mem), ?_, checkBlames blamed⟩
  intro holds
  have none := checkNone.mpr holds
  simp only [Function.comp_apply, none] at blamed
  contradiction

theorem validateOk {m : Model} : (∃ ws, validate m = .ok ws) ↔ Legal m := by
  rw [← faultNone]
  unfold validate
  split <;> simp [*]

theorem validateError {m : Model} {f : Fault} : validate m = .error f ↔ fault? m = some f := by
  unfold validate
  split <;> simp [*]

theorem validateWarnings {m : Model} {ws : List Warning} (passed : validate m = .ok ws) : ws = warnings m := by
  unfold validate at passed
  split at passed
  · contradiction
  · exact (Except.ok.inj passed).symm

end Tabular.Validation

import Mathlib.Logic.Relation
import Tabular.Model.Workbench

/-! Who owns a measure. A measure carries the name of its table with it, a copy that nothing keeps up to date:
renaming a table leaves it behind, and a table may be put into a model as it is. Loading a declaration and attaching
owners bring every measure into line, and each other step of a workbench leaves it so. A builder lets no stale name
reach the model: a table enters it with all owners set and is not touched again, so attaching owners never finds
anything to do there. -/
namespace Tabular
open Relation (ReflTransGen)

def Table.OwnsMeasures (t : Table) : Prop := ∀ x ∈ t.measures, x.owner = some t.name

structure Model.OwnsMeasures (m : Model) : Prop where
  tables : ∀ t ∈ m.tables, t.OwnsMeasures
  model : ∀ x ∈ m.measures, x.owner = none

theorem Table.attachedOwns (t : Table) : t.attachOwners.OwnsMeasures := by
  intro x member
  obtain ⟨y, _, rfl⟩ := List.mem_map.mp member
  rfl

theorem Model.attachedOwns (m : Model) : m.attachOwners.OwnsMeasures := by
  refine ⟨fun t member => ?_, fun x member => ?_⟩
  · obtain ⟨u, _, rfl⟩ := List.mem_map.mp member
    exact u.attachedOwns
  · obtain ⟨y, _, rfl⟩ := List.mem_map.mp member
    rfl

theorem Model.OwnsMeasures.withTable {m : Model} {t : Table} (owns : m.OwnsMeasures) (own : t.OwnsMeasures) :
    Model.OwnsMeasures { m with tables := m.tables ++ [t] } :=
  ⟨List.forall_mem_append.mpr ⟨owns.tables, by simpa using own⟩, owns.model⟩

theorem Model.OwnsMeasures.addMeasure {m : Model} (owns : m.OwnsMeasures) (x : Measure) :
    (m.addMeasure x).OwnsMeasures :=
  ⟨owns.tables, List.forall_mem_append.mpr ⟨owns.model, by simp⟩⟩

theorem loadedAttached {ε : Type} {read : String → Except ε Model} {s : String} {m : Model}
    (loaded : Model.load read s = .ok m) : ∃ n : Model, m = n.attachOwners := by
  cases done : read s with
  | error e => simp [Model.load, done, Except.map] at loaded
  | ok n => exact ⟨n, by simpa [Model.load, done, Except.map] using loaded.symm⟩

/-- Models whose owners were just set: there are none yet, or loading or `attachOwners` set them. -/
inductive Settled : Model → Prop where
  | fresh (name : String) (description : Option String) : Settled { name, description }
  | loaded {ε : Type} {read : String → Except ε Model} {s : String} {m : Model}
      (loaded : Model.load read s = .ok m) : Settled m
  | attached (m : Model) : Settled m.attachOwners

theorem Settled.isAttached {m : Model} (settled : Settled m) : ∃ n : Model, m = n.attachOwners := by
  cases settled with
  | fresh name description => exact ⟨{ name, description }, rfl⟩
  | loaded loaded => exact loadedAttached loaded
  | attached m => exact ⟨m, rfl⟩

theorem Settled.owns {m : Model} (settled : Settled m) : m.OwnsMeasures := by
  obtain ⟨n, rfl⟩ := settled.isAttached
  exact n.attachedOwns

namespace Workbench

def PushesOwned (w : Workbench) : Action → Prop
  | .pushTable key => ∀ t ∈ w.draft? key, t.OwnsMeasures
  | _ => True

inductive Assembled : Workbench → Prop where
  | start {w : Workbench} (settled : Settled w.model) : Assembled w
  | step {w : Workbench} {a : Action} (before : Assembled w) (pushes : w.PushesOwned a) : Assembled (w.step a)

theorem editModel (w : Workbench) (key : String) (f : Table → Table) : (w.edit key f).model = w.model := by
  unfold edit
  split <;> rfl

theorem stepOwns {w : Workbench} {a : Action} (owns : w.model.OwnsMeasures) (pushes : w.PushesOwned a) :
    (w.step a).model.OwnsMeasures := by
  cases a with
  | startModel name description => exact (Settled.fresh name description).owns
  | draft | addRelationship | addHierarchy | addRole => exact ⟨owns.tables, owns.model⟩
  | addColumn | addCalculatedColumn | addMeasure | pushColumn | pushMeasure | rename =>
    simpa only [step, editModel] using owns
  | copyColumn | copyMeasure =>
    simp only [step]
    split
    · simpa only [editModel] using owns
    · exact owns
  | liftMeasure =>
    simp only [step]
    split
    · exact owns.addMeasure _
    · exact owns
  | addModelMeasure x => exact owns.addMeasure x
  | addTable key =>
    simp only [step]
    split
    · exact owns.withTable (Table.attachedOwns _)
    · exact owns
  | pushTable key =>
    simp only [step]
    split
    · rename_i t found
      exact owns.withTable (pushes t found)
    · exact owns
  | attachOwners => exact w.model.attachedOwns

theorem Assembled.owns {w : Workbench} (assembled : Assembled w) : w.model.OwnsMeasures := by
  induction assembled with
  | start settled => exact settled.owns
  | step _ pushes ih => exact stepOwns ih pushes

end Workbench

structure Table.OwnsParts (t : Table) : Prop where
  columns : ∀ c ∈ t.columns, c.owner = some t.name
  calculatedColumns : ∀ c ∈ t.calculatedColumns, c.owner = some t.name
  measures : t.OwnsMeasures

structure Model.OwnsParts (m : Model) : Prop where
  tables : ∀ t ∈ m.tables, t.OwnsParts
  measures : ∀ x ∈ m.measures, x.owner = none

structure Model.Extended (m n : Model) : Prop where
  tables : m.tables <+: n.tables
  measures : m.measures <+: n.measures
  relationships : m.relationships <+: n.relationships
  hierarchies : m.hierarchies <+: n.hierarchies
  roles : m.roles <+: n.roles

theorem mapSelf {α : Type} {f : α → α} {xs : List α} (fixed : ∀ x ∈ xs, f x = x) : xs.map f = xs :=
  (List.map_congr_left fixed).trans (List.map_id xs)

theorem Table.attachedOwnsParts (t : Table) : t.attachOwners.OwnsParts := by
  constructor
  case columns => simp [attachOwners]
  case calculatedColumns => simp [attachOwners]
  case measures => exact t.attachedOwns

theorem Table.OwnsParts.attached {t : Table} (owns : t.OwnsParts) : t.attachOwners = t := by
  have columns : t.columns.map (fun c => { c with owner := some t.name }) = t.columns :=
    mapSelf fun c member => by rw [← owns.columns c member]
  have calculatedColumns :
      t.calculatedColumns.map (fun c => { c with owner := some t.name }) = t.calculatedColumns :=
    mapSelf fun c member => by rw [← owns.calculatedColumns c member]
  have measures : t.measures.map (fun x => { x with owner := some t.name }) = t.measures :=
    mapSelf fun x member => by rw [← owns.measures x member]
  simp only [attachOwners, columns, calculatedColumns, measures]

theorem Model.attachedOwnsParts (m : Model) : m.attachOwners.OwnsParts := by
  constructor
  case tables => simpa [attachOwners] using fun t _ => t.attachedOwnsParts
  case measures => exact m.attachedOwns.model

theorem Model.OwnsParts.attached {m : Model} (owns : m.OwnsParts) : m.attachOwners = m := by
  have tables : m.tables.map Table.attachOwners = m.tables :=
    mapSelf fun t member => (owns.tables t member).attached
  have measures : m.measures.map (fun x => { x with owner := none }) = m.measures :=
    mapSelf fun x member => by rw [← owns.measures x member]
  simp only [attachOwners, tables, measures]

theorem Settled.ownsParts {m : Model} (settled : Settled m) : m.OwnsParts := by
  obtain ⟨n, rfl⟩ := settled.isAttached
  exact n.attachedOwnsParts

inductive Model.Built (m : Model) : Model → Prop
  | same : m.Built m
  | table (t : Table) : m.Built (m.addTable t)
  | measure (x : Measure) : m.Built (m.addMeasure x)
  | relationship (r : Relationship) : m.Built (m.addRelationship r)
  | hierarchy (h : Hierarchy) : m.Built (m.addHierarchy h)
  | role (r : Role) : m.Built (m.addRole r)
  | attached : m.Built m.attachOwners

theorem Model.Built.owns {m n : Model} (built : m.Built n) (owns : m.OwnsParts) : n.OwnsParts := by
  cases built with
  | same => exact owns
  | table t =>
    have added : ∀ u ∈ [t.attachOwners], u.OwnsParts := by simpa using t.attachedOwnsParts
    exact ⟨List.forall_mem_append.mpr ⟨owns.tables, added⟩, owns.measures⟩
  | measure x => exact ⟨owns.tables, List.forall_mem_append.mpr ⟨owns.measures, by simp⟩⟩
  | relationship | hierarchy | role => exact ⟨owns.tables, owns.measures⟩
  | attached => exact m.attachedOwnsParts

theorem Model.Extended.refl (m : Model) : m.Extended m := by
  constructor <;> exact List.prefix_refl _

theorem Model.Extended.trans {m n k : Model} (first : m.Extended n) (second : n.Extended k) : m.Extended k := by
  constructor
  case tables => exact first.tables.trans second.tables
  case measures => exact first.measures.trans second.measures
  case relationships => exact first.relationships.trans second.relationships
  case hierarchies => exact first.hierarchies.trans second.hierarchies
  case roles => exact first.roles.trans second.roles

theorem Model.Built.extended {m n : Model} (built : m.Built n) (owns : m.OwnsParts) : m.Extended n := by
  have self := Extended.refl m
  cases built with
  | same => exact self
  | table t => exact { self with tables := List.prefix_append _ _ }
  | measure x => exact { self with measures := List.prefix_append _ _ }
  | relationship r => exact { self with relationships := List.prefix_append _ _ }
  | hierarchy h => exact { self with hierarchies := List.prefix_append _ _ }
  | role r => exact { self with roles := List.prefix_append _ _ }
  | attached =>
    -- only this step looks back at what is there, and finds its owners set
    rw [owns.attached]
    exact self

def Action.builds : Action → Bool
  | .startModel _ _ => false
  | .pushTable _ => false
  | _ => true

namespace Workbench

/-- One step of a builder. The lists of a draft are open, so it may also be changed in any other way. -/
inductive Builds (w : Workbench) : Workbench → Prop
  | act {a : Action} (builds : a.builds = true) : w.Builds (w.step a)
  | edit (key : String) (change : Table → Table) : w.Builds (w.edit key change)

theorem editBuilt (w : Workbench) (key : String) (change : Table → Table) :
    w.model.Built (w.edit key change).model := by
  rw [editModel]
  exact .same

theorem Builds.built {w v : Workbench} (step : w.Builds v) : w.model.Built v.model := by
  cases step with
  | edit key change => exact editBuilt w key change
  | @act a builds =>
    cases a with
    | startModel | pushTable => contradiction
    | draft => exact .same
    | addColumn | addCalculatedColumn | addMeasure | pushColumn | pushMeasure | rename => exact editBuilt w _ _
    | copyColumn | copyMeasure =>
      simp only [Workbench.step]
      split
      · exact editBuilt w _ _
      · exact .same
    | liftMeasure =>
      simp only [Workbench.step]
      split
      · exact .measure _
      · exact .same
    | addTable =>
      simp only [Workbench.step]
      split
      · exact .table _
      · exact .same
    | addModelMeasure x => exact .measure x
    | addRelationship r => exact .relationship r
    | addHierarchy h => exact .hierarchy h
    | addRole r => exact .role r
    | attachOwners => exact .attached

theorem buildsOwned {w v : Workbench} (owns : w.model.OwnsParts) (steps : ReflTransGen Builds w v) :
    v.model.OwnsParts ∧ w.model.Extended v.model := by
  induction steps with
  | refl => exact ⟨owns, .refl _⟩
  | tail _ step ih =>
    have built := step.built
    exact ⟨built.owns ih.1, ih.2.trans (built.extended ih.1)⟩

theorem builtOwned {w u v : Workbench} (start : Settled w.model) (earlier : ReflTransGen Builds w u)
    (later : ReflTransGen Builds u v) : v.model.OwnsParts ∧ u.model.Extended v.model :=
  buildsOwned (buildsOwned start.ownsParts earlier).1 later

theorem runBuilds (w : Workbench) {actions : List Action} (each : ∀ a ∈ actions, a.builds = true) :
    ReflTransGen Builds w (w.run actions) := by
  induction actions generalizing w with
  | nil => exact .refl
  | cons a actions ih =>
    obtain ⟨first, rest⟩ := List.forall_mem_cons.mp each
    exact .head (.act first) (ih (w.step a) rest)

def drafting : List Action :=
  [.draft "a" { name := "Draft", columns := [{ name := "Key", owner := some "Elsewhere" }] },
    .addMeasure "a" { name := "Total", expression := "1" }, .rename "a" "Sales", .addTable "a",
    .draft "b" { name := "Dates" }, .copyMeasure "a" "b" "Total", .pushColumn "b" { name := "Day" },
    .liftMeasure "a" "Total"]

def finishing : List Action := [.rename "a" "Later", .rename "b" "Days", .addTable "b", .attachOwners]

def atelier : Workbench := { model := { name := "Shop" } }

theorem atelierOwned : ((atelier.run drafting).run finishing).model.OwnsParts ∧
    (atelier.run drafting).model.Extended ((atelier.run drafting).run finishing).model :=
  builtOwned (.fresh "Shop" none) (runBuilds atelier (by decide)) (runBuilds _ (by decide))

example : ((atelier.run drafting).run finishing).model.tables.map (fun t =>
      (t.name, t.columns.map (·.owner), t.measures.map (·.owner))) =
    [("Sales", [some "Sales"], [some "Sales"]), ("Days", [some "Days"], [some "Days"])] := by decide

end Workbench

end Tabular

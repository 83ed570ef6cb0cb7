import Tabular.Model.Basic

/-! Building a model step by step. Tables are drafted on the side, under a key each, and copied into
the model when they are ready. -/
namespace Tabular

structure Workbench where
  model : Model
  drafts : List (String × Table) := []
  deriving DecidableEq, Repr, Inhabited

inductive Action where
  | startModel (name : String) (description : Option String)
  | draft (key : String) (table : Table)
  | addColumn (key : String) (column : Column)
  | addCalculatedColumn (key : String) (column : CalculatedColumn)
  | addMeasure (key : String) (measure : Measure)
  | pushColumn (key : String) (column : Column)
  | pushMeasure (key : String) (measure : Measure)
  | rename (key : String) (name : String)
  | copyColumn (source key : String) (name : String)
  | copyMeasure (source key : String) (name : String)
  | liftMeasure (source : String) (name : String)
  | addTable (key : String)
  | pushTable (key : String)
  | addModelMeasure (measure : Measure)
  | addRelationship (relationship : Relationship)
  | addHierarchy (hierarchy : Hierarchy)
  | addRole (role : Role)
  | attachOwners
  deriving DecidableEq, Repr

namespace Workbench

def draft? (w : Workbench) (key : String) : Option Table := w.drafts.lookup key

def setDraft (w : Workbench) (key : String) (t : Table) : Workbench :=
  { w with drafts := (key, t) :: w.drafts.filter fun d => d.1 != key }

def edit (w : Workbench) (key : String) (f : Table → Table) : Workbench :=
  match w.draft? key with
  | some t => w.setDraft key (f t)
  | none => w

def column? (w : Workbench) (key name : String) : Option Column :=
  (w.draft? key).bind fun t => t.columns.find? fun c => c.name == name

def measure? (w : Workbench) (key name : String) : Option Measure :=
  (w.draft? key).bind fun t => t.measures.find? fun m => m.name == name

def onModel (w : Workbench) (f : Model → Model) : Workbench := { w with model := f w.model }

def step (w : Workbench) : Action → Workbench
  | .startModel name description => { w with model := { name, description } }
  | .draft key t => w.setDraft key t
  | .addColumn key c => w.edit key (·.addColumn c)
  | .addCalculatedColumn key c => w.edit key (·.addCalculatedColumn c)
  | .addMeasure key m => w.edit key (·.addMeasure m)
  | .pushColumn key c => w.edit key fun t => { t with columns := t.columns ++ [c] }
  | .pushMeasure key m => w.edit key fun t => { t with measures := t.measures ++ [m] }
  | .rename key name => w.edit key fun t => { t with name }
  | .copyColumn source key name =>
    match w.column? source name with
    | some c => w.edit key (·.addColumn c)
    | none => w
  | .copyMeasure source key name =>
    match w.measure? source name with
    | some m => w.edit key (·.addMeasure m)
    | none => w
  | .liftMeasure source name =>
    match w.measure? source name with
    | some m => w.onModel (·.addMeasure m)
    | none => w
  | .addTable key =>
    match w.draft? key with
    | some t => w.onModel (·.addTable t)
    | none => w
  | .pushTable key =>
    match w.draft? key with
    | some t => w.onModel fun m => { m with tables := m.tables ++ [t] }
    | none => w
  | .addModelMeasure measure => w.onModel (·.addMeasure measure)
  | .addRelationship r => w.onModel (·.addRelationship r)
  | .addHierarchy h => w.onModel (·.addHierarchy h)
  | .addRole r => w.onModel (·.addRole r)
  | .attachOwners => w.onModel Model.attachOwners

def run (w : Workbench) (actions : List Action) : Workbench := actions.foldl step w

end Workbench

end Tabular

import Tabular.Compilation
import Tabular.Definition.Reading
import Tabular.Storage.Files

/-! Writing what a compilation produced, and reading a definition folder. What is to be done is laid down first,
change by change; then the changes are made in order, up to the first one that fails. The files of a folder are read
one after the other as one text. -/
namespace Tabular.Storage
open Definition (Outline ReadFault)

inductive Change where
  | clear (path : Path)
  | write (path : Path) (contents : String)
  deriving DecidableEq, Repr

def plan (out : Path) (a : Artifacts) : List Change :=
  let folder := out.join [a.definitionFolder]
  .clear folder ::
    a.files.map (fun f => .write (folder.join (.ofText f.path)) f.contents) ++
    [.write ((out.join [a.slug]).join ["model.json"]) a.json]

variable {m : Type → Type} [Monad m] [Files m]

def perform : Change → ExceptT WriteFailure m Unit
  | .clear p => do
    if (← (Files.kind? p : m (Option Kind))).isSome then
      explain (⟨p, ·⟩) (Files.removeTree p)
  | .write p contents => do
    match p.parent? with
    | none => pure ()
    | some parent => explain (⟨parent, ·⟩) (makeDirectories (parent.length + 1) parent)
    explain (⟨p, ·⟩) (Files.writeText p contents)

def performAll (changes : List Change) : ExceptT WriteFailure m Unit := changes.forM perform

inductive CompileFault where
  | invalid (f : Validation.Fault)
  | write (f : WriteFailure)
  deriving DecidableEq, Repr

def CompileFault.message : CompileFault → String
  | .invalid f => f.message
  | .write f => f.message

def compileTo (out : Path) (model : Model) (o : Definition.Options) :
    ExceptT CompileFault m Artifacts :=
  match compile model o with
  | .error f => throw (.invalid f)
  | .ok a => ExceptT.mk do
    match ← (performAll (plan out a)).run with
    | .ok () => return .ok a
    | .error f => return .error (.write f)

inductive FolderFault where
  | access (f : ReadFailure)
  | definition (f : ReadFault)

def FolderFault.message : FolderFault → String
  | .access f => f.message
  | .definition f => f.message

def definitionFilesIn (p : Path) : ExceptT ReadFailure m (List Path) := do
  if ← (isDirectory p : m Bool) then
    let names ← explain (⟨p, ·⟩) (Files.names p)
    let names := names.filter fun name => Path.extension? [name] = some "tmdl"
    return (names.mergeSort (fun a b => decide (a ≤ b))).map fun name => p.join [name]
  else return []

def folderFiles (p : Path) : ExceptT ReadFailure m (List Path) := do
  let inner := p.join ["definition"]
  let root := if ← (isDirectory inner : m Bool) then inner else p
  let tables ← definitionFilesIn (root.join ["tables"])
  let single ← [["relationships.tmdl"], ["hierarchies.tmdl"]].filterM fun name =>
    (isFile (root.join name) : m Bool)
  let roles ← definitionFilesIn (root.join ["roles"])
  return [root.join ["model.tmdl"]] ++ tables ++ single.map root.join ++ roles

def readFiles (ps : List Path) : ExceptT ReadFailure m String := do
  let texts ← ps.mapM fun p => readText p
  return String.join (texts.map (· ++ "\n"))

def readFolder (p : Path) : ExceptT FolderFault m Outline := ExceptT.mk do
  match ← (do readFiles (← folderFiles p) : ExceptT ReadFailure m String).run with
  | .error f => return .error (.access f)
  | .ok text => return (Definition.read text).mapError .definition

end Tabular.Storage

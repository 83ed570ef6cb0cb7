import Tabular.Text

/-! Paths, and what may be asked of a place that keeps files. A path is kept as the segments between its slashes, so
that it can be shown just as it was written; empty segments and single dots lead nowhere. The place may be a real one
or a value (`Tabular.Storage.Disk`). -/
namespace Tabular.Storage

abbrev Path := List String

def segments : List Char → List (List Char)
  | [] => [[]]
  | '/' :: rest => [] :: segments rest
  | c :: rest => Text.consFirst c (segments rest)

namespace Path

def ofText (s : String) : Path :=
  if s.isEmpty then [] else (segments s.toList).map String.ofList

def text (p : Path) : String := String.intercalate "/" p

def join (p q : Path) : Path :=
  if p.getLast? = some "" then p.dropLast ++ q else p ++ q

def leadsNowhere (s : String) : Bool := s.isEmpty || s = "."

def dropEnd (p : Path) : Path := (p.reverse.dropWhile leadsNowhere).reverse

def trimmed : Path → Path
  | [] => []
  | first :: rest => first :: dropEnd rest

def dropSlashes (p : Path) : Path := (p.reverse.dropWhile (·.isEmpty)).reverse

def parent? (p : Path) : Option Path :=
  match p.trimmed with
  | [] => none
  | [first] => if first.isEmpty then none else some []
  | first :: rest =>
    match trimmed (first :: rest.dropLast) with
    | [""] => some ["", ""]
    | q => some q

def extension? (p : Path) : Option String := do
  let name ← p.trimmed.getLast?
  let back := name.toList.reverse
  let after := (back.takeWhile (· ≠ '.')).reverse
  -- a dot at the very start belongs to the name
  match back.dropWhile (· ≠ '.') with
  | '.' :: _ :: _ => if name = ".." then none else some (String.ofList after)
  | _ => none

end Path

inductive Cause where
  | notFound
  | alreadyThere
  | notDirectory
  | isDirectory
  | nameTooLong
  | nulInPath
  | notText
  | other (text : String)
  deriving DecidableEq, Repr

def Cause.message : Cause → String
  | .notFound => "No such file or directory (os error 2)"
  | .alreadyThere => "File exists (os error 17)"
  | .notDirectory => "Not a directory (os error 20)"
  | .isDirectory => "Is a directory (os error 21)"
  | .nameTooLong => "File name too long (os error 36)"
  | .nulInPath => "file name contained an unexpected NUL byte"
  | .notText => "stream did not contain valid UTF-8"
  | .other text => text

inductive Kind where
  | file
  | directory
  deriving DecidableEq, Repr

abbrev Outcome (α : Type) := Except Cause α

class Files (m : Type → Type) where
  readText : Path → m (Outcome String)
  writeText : Path → String → m (Outcome Unit)
  makeDirectory : Path → m (Outcome Unit)
  removeTree : Path → m (Outcome Unit)
  kind? : Path → m (Option Kind)
  names : Path → m (Outcome (List String))

variable {m : Type → Type} [Monad m] [Files m]

def isDirectory (p : Path) : m Bool := do
  return (← Files.kind? p) = some .directory

def isFile (p : Path) : m Bool := do
  return (← Files.kind? p) = some .file

def ensureDirectory (p : Path) : m (Outcome Unit) := do
  match ← Files.makeDirectory p with
  | .ok () => return .ok ()
  | .error e => return if ← isDirectory p then .ok () else .error e

def makeDirectories : Nat → Path → m (Outcome Unit)
  | 0, _ => return .error .notFound
  | depth + 1, p => do
    if p.isEmpty then return .ok ()
    match ← Files.makeDirectory p with
    | .ok () => return .ok ()
    | .error .notFound =>
      match p.parent? with
      | none => return .error .notFound
      | some parent =>
        match ← makeDirectories depth parent with
        | .ok () => ensureDirectory p
        | .error e => return .error e
    | .error e => return if ← isDirectory p then .ok () else .error e

structure ReadFailure where
  path : Path
  cause : Cause
  deriving DecidableEq, Repr

def ReadFailure.message (f : ReadFailure) : String :=
  "Failed to read " ++ f.path.text ++ ": " ++ f.cause.message

structure WriteFailure where
  path : Path
  cause : Cause
  deriving DecidableEq, Repr

def WriteFailure.message (f : WriteFailure) : String :=
  "Failed to write " ++ f.path.text ++ ": " ++ f.cause.message

def explain {ε α : Type} (fault : Cause → ε) (act : m (Outcome α)) : ExceptT ε m α :=
  ExceptT.mk do return (← act).mapError fault

def readText (p : Path) : ExceptT ReadFailure m String :=
  explain (⟨p, ·⟩) (Files.readText p)

end Tabular.Storage

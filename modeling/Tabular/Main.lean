import Tabular.Command

/-! The program: commands carried out on the files of the machine. -/
namespace Tabular
open Storage (Cause Files Kind Outcome Path)

def causeOf : IO.Error → Cause
  | .noFileOrDirectory .. => .notFound
  | .alreadyExists .. => .alreadyThere
  | .inappropriateType _ code _ => if code = 21 then .isDirectory else .notDirectory
  | .invalidArgument _ code text => if code = 36 then .nameTooLong else .other text
  | e => .other (toString e)

def attempt {α : Type} (act : IO α) : IO (Outcome α) := do
  try return .ok (← act)
  catch e => return .error (causeOf e)

def kindOf (p : Path) : IO (Option Kind) := do
  if p.isEmpty then return none
  let here ← IO.currentDir
  try
    match (← (here / p.text).metadata).type with
    | .dir => return some .directory
    | _ => return some .file
  catch _ => return none

def namesIn (p : Path) : IO (List String) := do
  let here ← IO.currentDir
  let found ← (here / p.text).readDir
  return (found.map fun x => x.fileName).toList

instance : Files IO where
  readText p := do
    match ← attempt (IO.FS.readBinFile p.text) with
    | .error e => return .error e
    | .ok bytes =>
      match String.fromUTF8? bytes with
      | some s => return .ok s
      | none => return .error .notText
  writeText p s := attempt (IO.FS.writeFile p.text s)
  makeDirectory p := attempt (IO.FS.createDir p.text)
  removeTree p := attempt (IO.FS.removeDirAll p.text)
  kind? := kindOf
  names p := attempt (namesIn p)

def outputVariable : String := "LOOMAA_OUT_DIR"

end Tabular

def main (args : List String) : IO UInt32 := do
  let report ← Tabular.Command.runArguments (← IO.getEnv Tabular.outputVariable) args
  (← IO.getStderr).putStr report.errors
  (← IO.getStdout).putStr report.output
  return report.code.toUInt32

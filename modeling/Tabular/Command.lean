import Tabular.Declaration.OfJson
import Tabular.Declaration.OfYaml
import Tabular.Definition.Summary
import Tabular.Storage.Files
import Tabular.Storage.Output
import Tabular.Unicode.Width

/-! The command line: what the arguments ask for, and what is done and shown for it. The end of its file name tells the
format of a declaration. This layer alone settles which parsers read a declaration and how wide a text is shown. -/
namespace Tabular.Storage
open Declaration (JsonFault YamlFault)

inductive LoadFault where
  | access (f : ReadFailure)
  | json (f : JsonFault)
  | yaml (f : YamlFault)
  | unsupported (format : String)
  deriving DecidableEq, Repr

def LoadFault.message : LoadFault → String
  | .access f => f.message
  | .json f => "Invalid JSON" ++ after f.message?
  | .yaml f => "Invalid YAML" ++ after f.message?
  | .unsupported format =>
    "Unsupported declaration format: " ++ format ++ " (expected .yaml, .yml or .json)"
where
  after : Option String → String
    | some text => ": " ++ text
    | none => ""

def modelOfText (format text : String) : Except LoadFault Model :=
  if format = "yaml" || format = "yml" then (Declaration.modelOfYaml text).mapError .yaml
  else if format = "json" then (Declaration.modelOfJson text).mapError .json
  else .error (.unsupported format)

variable {m : Type → Type} [Monad m] [Files m]

def load (p : Path) : ExceptT LoadFault m Model := ExceptT.mk do
  let format := (p.extension?.getD "").map Char.toLower
  -- the file is read even if its format turns out to be unknown
  match ← Files.readText p with
  | .error cause => return .error (.access ⟨p, cause⟩)
  | .ok text => return modelOfText format text

inductive BuildFault where
  | load (f : LoadFault)
  | compile (f : CompileFault)
  deriving DecidableEq, Repr

def BuildFault.message : BuildFault → String
  | .load f => f.message
  | .compile f => f.message

def build (declaration out : Path) (o : Definition.Options) : ExceptT BuildFault m Artifacts :=
  ExceptT.mk do
    match ← (load declaration).run with
    | .error f => return .error (.load f)
    | .ok model => return (← (compileTo out model o).run).mapError .compile

end Tabular.Storage

namespace Tabular
open Storage (Files Path)

def Definition.summary (d : Outline) : String := summarize (fun s => Unicode.columns s.toList) d

inductive Command where
  | compile (declaration output culture : String)
  | validate (declaration : String)
  | inspect (folder : String)
  deriving DecidableEq, Repr

namespace Command

structure Arguments where
  positional : List String := []
  output : Option String := none
  culture : Option String := none
  deriving DecidableEq, Repr

inductive Setting where
  | output
  | culture
  deriving DecidableEq, Repr

def Arguments.set? (a : Arguments) (s : Setting) (value : String) : Option Arguments :=
  match s with
  | .output => if a.output.isSome then none else some { a with output := some value }
  | .culture => if a.culture.isSome then none else some { a with culture := some value }

def longNames : List (List Char × Setting) :=
  [("--output".toList, .output), ("--culture".toList, .culture)]

def looksLikeOption (arg : String) : Bool :=
  match arg.toList with
  | '-' :: _ :: _ => true
  | _ => false

def option? (arg : List Char) : Option (Setting × Option (List Char)) :=
  match arg with
  | ['-', 'o'] => some (.output, none)
  | '-' :: 'o' :: '=' :: value => some (.output, some value)
  | '-' :: 'o' :: value => some (.output, some value)
  | _ =>
    match longNames.lookup arg with
    | some s => some (s, none)
    | none => do
      let (name, value) ← Text.splitOnce? ['='] arg
      let s ← longNames.lookup name
      return (s, some value)

def collect? : Arguments → List String → Option Arguments
  | a, [] => some a
  | a, arg :: rest =>
    if arg = "--" then some { a with positional := a.positional ++ rest }
    else if !looksLikeOption arg then
      collect? { a with positional := a.positional ++ [arg] } rest
    else
      match option? arg.toList with
      | some (s, some value) => (a.set? s (String.ofList value)).bind fun a => collect? a rest
      | some (s, none) =>
        match rest with
        | [] => none
        | value :: more =>
          if looksLikeOption value then none
          else (a.set? s value).bind fun a => collect? a more
      | none => none

def defaultOutput : String := "compiled"

def parse? (environment : Option String) : List String → Option Command
  | [] => none
  | name :: args => do
    let a ← collect? {} args
    let plain := a.output.isNone && a.culture.isNone
    match name, a.positional with
    | "compile", [declaration] =>
      let output := (a.output.or environment).getD defaultOutput
      let culture := a.culture.getD ({} : Definition.Options).culture
      return .compile declaration output culture
    | "validate", [declaration] => if plain then return .validate declaration else none
    | "inspect", [folder] => if plain then return .inspect folder else none
    | _, _ => none

structure Report where
  code : Nat := 0
  output : String := ""
  errors : String := ""
  deriving DecidableEq, Repr

def failed (message : String) : Report := { code := 1, errors := "Error: " ++ message ++ "\n" }

def warningLines (ws : List Validation.Warning) : String :=
  String.join (ws.map fun w => "warning: " ++ w.message ++ "\n")

def compiledLine (a : Artifacts) (output : Path) : String :=
  "Compiled " ++ a.modelName ++ " into " ++ (output.join [a.definitionFolder]).text ++ "\n"

def validLine (m : Model) : String :=
  m.name ++ " is valid: " ++ toString m.tables.length ++ " tables, " ++
    toString m.allMeasures.length ++ " measures, " ++ toString m.relationships.length ++
    " relationships\n"

variable {m : Type → Type} [Monad m] [Files m]

def run : Command → m Report
  | .compile declaration output culture => do
    let out := Path.ofText output
    match ← (Storage.build (.ofText declaration) out { culture }).run with
    | .error f => return failed f.message
    | .ok a => return { output := compiledLine a out, errors := warningLines a.warnings }
  | .validate declaration => do
    match ← (Storage.load (.ofText declaration)).run with
    | .error f => return failed f.message
    | .ok model =>
      match Validation.validate model with
      | .error f => return failed f.message
      | .ok ws => return { output := validLine model, errors := warningLines ws }
  | .inspect folder => do
    match ← (Storage.readFolder (.ofText folder)).run with
    | .error f => return failed f.message
    | .ok outline => return { output := Definition.summary outline }

def usage : Report where
  code := 2
  errors := "usage: compile DECLARATION [-o DIR] [--culture CULTURE]\n" ++
    "       validate DECLARATION\n       inspect FOLDER\n"

def runArguments (environment : Option String) (args : List String) : m Report :=
  match parse? environment args with
  | some c => run c
  | none => return usage

end Command

end Tabular

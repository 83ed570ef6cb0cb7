import Tabular.Declaration.Schema
import Tabular.Json.Node

/-! Declarations in JSON, one reader of those that `Model.load` may be given. A record is an object, or an array of
its fields in order. The first problem in the text decides: text that stops being JSON is found out only when the
reader gets there. -/
namespace Tabular.Declaration
open Json (Node)

inductive JsonFault where
  | syntaxError
  | mismatch (m : Mismatch)
  deriving DecidableEq, Repr

def JsonFault.message? : JsonFault → Option String
  | .syntaxError => none
  | .mismatch m => some m.message

def OfJson (α : Type) := Node → Except JsonFault α

namespace OfJson

def found (n : Node) : Except JsonFault String :=
  match n with
  | .null => .ok "null"
  | .bool b => .ok (foundFlag b)
  | .number l =>
    match l.amount? with
    | some a => .ok a.text
    | none => .error .syntaxError
  | .text (some s) => .ok (foundText s)
  | .array _ _ => .ok "sequence"
  | .object _ _ | .keyless _ => .ok "map"
  | .text none | .broken => .error .syntaxError

def mistyped {α : Type} (expected : String) (n : Node) : Except JsonFault α := do
  .error (.mismatch (.invalidType (← found n) expected))

def text : OfJson String
  | .text (some s) => .ok s
  | n => mistyped "a string" n

def flag : OfJson Bool
  | .bool b => .ok b
  | n => mistyped "a boolean" n

def optional {α : Type} (read : OfJson α) : OfJson (Option α)
  | .null => .ok none
  | n => (read n).map some

def spelled {α : Type} (options : List (String × α)) (s : String) : Except JsonFault α :=
  match options.lookup s with
  | some v => .ok v
  | none => .error (.mismatch (.unknownVariant s (options.map (·.1))))

def choice {α : Type} (options : List (String × α)) : OfJson α
  | .text (some s) => spelled options s
  | .object ((some s, n) :: rest) closed => do
    let v ← spelled options s
    match n with
    | .null => if rest.isEmpty && closed then .ok v else .error .syntaxError
    | n => mistyped "unit" n
  | .keyless n => mistyped "variant identifier" n
  | _ => .error .syntaxError

def items {α : Type} (read : OfJson α) (closed : Bool) : List Node → Except JsonFault (List α)
  | [] => if closed then .ok [] else .error .syntaxError
  | n :: rest => do
    let v ← read n
    let vs ← items read closed rest
    return v :: vs

def list {α : Type} (read : OfJson α) : OfJson (List α)
  | .array ns closed => items read closed ns
  | n => mistyped "a sequence" n

def byKey {δ : Type} (s : Shape OfJson δ) (closed : Bool) :
    List String → δ → List (Option String × Node) → Except JsonFault δ
  | seen, d, [] =>
    if !closed then .error .syntaxError
    else match s.missing? seen with
      | some name => .error (.mismatch (.missingField name))
      | none => .ok d
  | _, _, (none, _) :: _ => .error .syntaxError
  | seen, d, (some key, n) :: rest =>
    match s.field? key with
    | some f =>
      if seen.contains f.name then .error (.mismatch (.duplicateField f.name))
      else do
        let change ← f.read n
        byKey s closed (f.name :: seen) (change d) rest
    | none => if n.isComplete then byKey s closed seen d rest else .error .syntaxError

def lengthText {δ : Type} (s : Shape OfJson δ) : String :=
  "struct " ++ s.title ++ " with " ++ toString s.fields.length ++ " elements"

def byPosition {δ : Type} (s : Shape OfJson δ) (closed : Bool) :
    Nat → δ → List (Field OfJson δ) → List Node → Except JsonFault δ
  | _, d, [], [] => if closed then .ok d else .error .syntaxError
  | _, _, [], _ :: _ => .error .syntaxError
  | i, d, f :: fs, [] =>
    if !closed then .error .syntaxError
    else if f.required then .error (.mismatch (.invalidLength i (lengthText s)))
    else byPosition s closed (i + 1) d fs []
  | i, d, f :: fs, n :: ns => do
    let change ← f.read n
    byPosition s closed (i + 1) (change d) fs ns

def record {δ : Type} (s : Shape OfJson δ) : OfJson δ
  | .object fields closed => byKey s closed [] s.blank fields
  | .keyless _ => .error .syntaxError
  | .array ns closed => byPosition s closed 0 s.blank s.fields ns
  | n => mistyped ("struct " ++ s.title) n

end OfJson

instance : Source OfJson where
  map f read n := (read n).map f
  text := OfJson.text
  flag := OfJson.flag
  optional := OfJson.optional
  choice := OfJson.choice
  list := OfJson.list
  record := OfJson.record

def readJson (s : String) : Except JsonFault Model := do
  let (n, rest) := Json.parse s.toList
  let m ← (model : OfJson Model) n
  match rest with
  | some after => if after.all Json.isSpace then return m else .error .syntaxError
  | none => .error .syntaxError

def modelOfJson (s : String) : Except JsonFault Model := Model.load readJson s

end Tabular.Declaration

import Tabular.Declaration.Schema
import Tabular.Yaml.Core
import Tabular.Yaml.Node
import Tabular.Yaml.Tokens

/-! Declarations in YAML, one reader of those that `Model.load` may be given. A record is a mapping, or nothing at
all; any scalar is a text. A mismatch is told with the path to the value where it was found. Aliases are followed,
but not without end. -/
namespace Tabular.Declaration
open Yaml (Node Style Tag)

inductive Path where
  | root
  | item (parent : Path) (index : Nat)
  | entry (parent : Path) (key : String)
  | unnamed (parent : Path)
  deriving DecidableEq, Repr

mutual

def Path.text : Path → String
  | .root => "."
  | .item p i => p.text ++ "[" ++ toString i ++ "]"
  | .entry p key => p.within ++ key
  | .unnamed p => p.within ++ "?"

def Path.within : Path → String
  | .root => ""
  | .item p i => p.text ++ "[" ++ toString i ++ "]."
  | .entry p key => p.within ++ key ++ "."
  | .unnamed p => p.within ++ "?."

end

inductive YamlFault where
  | unreadable
  | mismatch (place : Path) (m : Mismatch)
  deriving DecidableEq, Repr

def YamlFault.message? : YamlFault → Option String
  | .unreadable => none
  | .mismatch .root m => some m.message
  | .mismatch p m => some (p.text ++ ": " ++ m.message)

structure Surroundings where
  anchors : Yaml.Anchors
  limit : Nat

inductive Trouble where
  | unreadable
  | here (m : Mismatch)
  | at (place : Path) (m : Mismatch)
  deriving DecidableEq, Repr

def Trouble.placed (p : Path) : Trouble → Trouble
  | .here m => .at p m
  | t => t

def Trouble.fault : Trouble → YamlFault
  | .unreadable => .unreadable
  | .here m => .mismatch .root m
  | .at p m => .mismatch p m

abbrev YamlRead (α : Type) := ReaderT Surroundings (StateT Nat (Except Trouble)) α

def OfYaml (α : Type) := Path → Node → YamlRead α

namespace OfYaml

def reject {α : Type} (m : Mismatch) : YamlRead α := throw (.here m)

def unreadable {α : Type} : YamlRead α := throw .unreadable

def placed {α : Type} (p : Path) (read : YamlRead α) : YamlRead α :=
  tryCatch read fun t => throw (t.placed p)

def resolve (n : Node) : YamlRead Node :=
  match n with
  | .alias target => do
    let s ← read
    let jumps ← get
    if s.limit ≤ jumps then unreadable
    else do
      set (jumps + 1)
      match s.anchors.find? target with
      | some n => return n
      | none => unreadable
  | n => return n

def ofCore (s : String) : Yaml.Core → String
  | .null => "unit value"
  | .bool b => foundFlag b
  | .integer n => Yaml.integerText n
  | .float x => Yaml.floatText x
  | .text => foundText s

def scalarMismatch (s : String) (style : Style) (tag : Option Tag) (expected : String) :
    Mismatch :=
  let typed (found : Option String) (kind : String) : Mismatch :=
    match found with
    | some f => .invalidType f expected
    | none => .invalidValue (foundText s) kind
  let untyped : Mismatch := .invalidType (ofCore s (.ofPlain s)) expected
  let asText : Mismatch := .invalidType (foundText s) expected
  match tag with
  | none => if style = .plain then untyped else asText
  | some t =>
    if t = Tag.core "bool" then typed ((Yaml.flag? s).map foundFlag) "a boolean"
    else if t = Tag.core "int" then typed ((Yaml.integer? s.toList).map Yaml.integerText) "an integer"
    else if t = Tag.core "float" then typed ((Yaml.float? s.toList).map Yaml.floatText) "a float"
    else if t = Tag.core "null" then
      typed (if Yaml.isNull s then some "unit value" else none) "null"
    else if t.isLocal && style = .plain then untyped
    else asText

def mistyped {α : Type} (expected : String) (n : Node) : YamlRead α :=
  match n with
  | .scalar s style tag => reject (scalarMismatch s style tag expected)
  | .sequence .. => reject (.invalidType "sequence" expected)
  | .mapping .. => reject (.invalidType "map" expected)
  | .alias _ | .broken => unreadable

def literal (expected : String) (n : Node) : YamlRead String := do
  match ← resolve n with
  | .scalar s _ _ => return s
  | n => mistyped expected n

def text : OfYaml String := fun p n => placed p (literal "a string" n)

def flag : OfYaml Bool := fun p n => placed p do
  let n ← resolve n
  let expected := "a boolean"
  match n with
  | .scalar s style tag =>
    if style = .plain || (style = .literal && tag = some (Tag.core "bool")) then
      match Yaml.flag? s with
      | some b => return b
      | none => mistyped expected n
    else mistyped expected n
  | n => mistyped expected n

def isAbsent (s : String) (style : Style) (tag : Option Tag) : YamlRead Bool :=
  if style ≠ .plain then return false
  else match tag with
    | none => return s.isEmpty || Yaml.isNull s
    | some t =>
      if t ≠ Tag.core "null" then return false
      else if Yaml.isNull s then return true
      else reject (.invalidValue (foundText s) "null")

def optional {α : Type} (read : OfYaml α) : OfYaml (Option α) := fun p n => do
  let n ← resolve n
  match n with
  | .scalar s style tag =>
    if ← isAbsent s style tag then return none else return some (← read p n)
  | n => return some (← read p n)

def spelled {α : Type} (options : List (String × α)) (s : String) : YamlRead α :=
  match options.lookup s with
  | some v => return v
  | none => reject (.unknownVariant s (options.map (·.1)))

def nothing (n : Node) : YamlRead Unit :=
  match n with
  | .scalar s style _ =>
    if style = .plain && (s.isEmpty || Yaml.isNull s) then return ()
    else reject (.invalidValue (foundText s) "null")
  | n => mistyped "unit" n

def choice {α : Type} (options : List (String × α)) : OfYaml α := fun p n => do
  let n ← resolve n
  let tagged (name : String) : YamlRead α := do
    let v ← spelled options name
    placed p (nothing n)
    return v
  let expected := "a YAML tag starting with '!'"
  match n with
  | .scalar s _ tag =>
    match tag.bind Tag.localName? with
    | some name => tagged name
    | none => placed p (spelled options s)
  | .sequence _ tag _ | .mapping _ tag _ =>
    match tag.bind Tag.localName? with
    | some name => tagged name
    | none => placed p (mistyped expected n)
  | _ => unreadable

def items {α : Type} (read : OfYaml α) (p : Path) (closed : Bool) :
    Nat → List Node → YamlRead (List α)
  | _, [] => if closed then return [] else unreadable
  | i, n :: rest => do
    let v ← read (.item p i) n
    let vs ← items read p closed (i + 1) rest
    return v :: vs

def isNothing (s : String) (style : Style) : Bool := s.isEmpty && style = .plain

def list {α : Type} (read : OfYaml α) : OfYaml (List α) := fun p n => placed p do
  let n ← resolve n
  match n with
  | .sequence ns _ closed => items read p closed 0 ns
  | .scalar s style _ => if isNothing s style then return [] else mistyped "a sequence" n
  | n => mistyped "a sequence" n

def below (p : Path) : Node → Path
  | .scalar s _ _ => .entry p s
  | _ => .unnamed p

def fields {δ : Type} (s : Shape OfYaml δ) (p : Path) (closed : Bool) :
    List String → δ → List (Node × Node) → YamlRead δ
  | seen, d, [] =>
    if !closed then unreadable
    else match s.missing? seen with
      | some name => reject (.missingField name)
      | none => return d
  | seen, d, (k, n) :: rest => do
    let key ← placed p (literal "field identifier" k)
    match s.field? key with
    | some f =>
      if seen.contains f.name then reject (.duplicateField f.name)
      else do
        let change ← f.read (below p k) n
        fields s p closed (f.name :: seen) (change d) rest
    | none => if n.isComplete then fields s p closed seen d rest else unreadable

def record {δ : Type} (s : Shape OfYaml δ) : OfYaml δ := fun p n => placed p do
  let n ← resolve n
  let expected := "struct " ++ s.title
  match n with
  | .mapping entries _ closed => fields s p closed [] s.blank entries
  | .scalar text style _ =>
    if isNothing text style then fields s p true [] s.blank [] else mistyped expected n
  | n => mistyped expected n

end OfYaml

instance : Source OfYaml where
  map f read := fun p n => f <$> read p n
  text := OfYaml.text
  flag := OfYaml.flag
  optional := OfYaml.optional
  choice := OfYaml.choice
  list := OfYaml.list
  record := OfYaml.record

def modelOfDocument (d : Yaml.Document) : Except YamlFault Model :=
  -- an empty stream stands for an empty mapping
  let root := d.root.getD .empty
  let start : Surroundings := ⟨d.anchors, root.size * 100⟩
  match (((model : OfYaml Model) .root root).run start).run 0 with
  | .error t => .error t.fault
  | .ok (m, _) => if d.alone then .ok m else .error .unreadable

def readYaml (s : String) : Except YamlFault Model :=
  modelOfDocument (.ofTokens (Yaml.tokens s.toList))

def modelOfYaml (s : String) : Except YamlFault Model := Model.load readYaml s

end Tabular.Declaration

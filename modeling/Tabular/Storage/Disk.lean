import Tabular.Storage.Files

/-! A disk as a value: what stands at each place below one directory. There are no links, so a place
has one path of names. -/
namespace Tabular.Storage

inductive Content where
  | text (s : String)
  | bytes (b : List UInt8)
  deriving DecidableEq, Repr

def Content.ofBytes (b : List UInt8) : Content :=
  match String.fromUTF8? ⟨b.toArray⟩ with
  | some s => .text s
  | none => .bytes b

inductive Entry where
  | file (c : Content)
  | directory
  deriving DecidableEq, Repr

abbrev Place := List String

structure Disk where
  entries : List (Place × Entry) := []
  deriving DecidableEq, Repr, Inhabited

namespace Disk

def find? (d : Disk) (p : Place) : Option Entry :=
  if p = [] then some .directory else d.entries.lookup p

def put (d : Disk) (p : Place) (e : Entry) : Disk :=
  ⟨(p, e) :: d.entries.filter fun x => x.1 ≠ p⟩

def prune (d : Disk) (p : Place) : Disk := ⟨d.entries.filter fun x => !p.isPrefixOf x.1⟩

def nameLimit : Nat := 255

def walk (d : Disk) : Place → Path → Outcome (Place × Option Entry)
  | here, [] => .ok (here, some .directory)
  | here, s :: rest =>
    if Path.leadsNowhere s then walk d here rest
    else if s = ".." then walk d here.dropLast rest
    else if nameLimit < s.utf8ByteSize then .error .nameTooLong
    else
      let place := here ++ [s]
      match d.find? place with
      | some .directory => walk d place rest
      | some (.file c) => if rest = [] then .ok (place, some (.file c)) else .error .notDirectory
      | none => if rest = [] then .ok (place, none) else .error .notFound

def pathLimit : Nat := 4095

def locate (d : Disk) (p : Path) : Outcome (Place × Option Entry) :=
  if p = [] then .error .notFound
  else if '\x00' ∈ p.text.toList then .error .nulInPath
  else if pathLimit < p.text.utf8ByteSize then .error .nameTooLong
  else walk d [] p

def readText (d : Disk) (p : Path) : Outcome String := do
  match ← d.locate p with
  | (_, some (.file (.text s))) => return s
  | (_, some (.file (.bytes _))) => throw .notText
  | (_, some .directory) => throw .isDirectory
  | (_, none) => throw .notFound

def write (d : Disk) (p : Path) (c : Content) : Outcome Disk := do
  let slash := p.getLast? = some ""
  match ← d.locate p.dropSlashes with
  | (_, some .directory) => throw .isDirectory
  | (place, some (.file _)) => if slash then throw .notDirectory else return d.put place (.file c)
  | (place, none) => if slash then throw .isDirectory else return d.put place (.file c)

def makeDirectory (d : Disk) (p : Path) : Outcome Disk := do
  match ← d.locate p.dropSlashes with
  | (_, some _) => throw .alreadyThere
  | (place, none) => return d.put place .directory

def removeTree (d : Disk) (p : Path) : Outcome Disk := do
  match ← d.locate p with
  | (place, some .directory) => return d.prune place
  | (_, some (.file _)) => throw .notDirectory
  | (_, none) => throw .notFound

def kind? (d : Disk) (p : Path) : Option Kind :=
  match d.locate p with
  | .ok (_, some .directory) => some .directory
  | .ok (_, some (.file _)) => some .file
  | _ => none

def nameBelow? (p q : Place) : Option String :=
  match q.getLast? with
  | some name => if q.dropLast = p then some name else none
  | none => none

def names (d : Disk) (p : Path) : Outcome (List String) := do
  match ← d.locate p with
  | (place, some .directory) => return d.entries.filterMap fun x => nameBelow? place x.1
  | (_, some (.file _)) => throw .notDirectory
  | (_, none) => throw .notFound

end Disk

abbrev OnDisk := StateM Disk

def changing (change : Disk → Outcome Disk) : OnDisk (Outcome Unit) := fun d =>
  match change d with
  | .ok after => (.ok (), after)
  | .error e => (.error e, d)

instance : Files OnDisk where
  readText p := fun d => (d.readText p, d)
  writeText p s := changing fun d => d.write p (.text s)
  makeDirectory p := changing fun d => d.makeDirectory p
  removeTree p := changing fun d => d.removeTree p
  kind? p := fun d => (d.kind? p, d)
  names p := fun d => (d.names p, d)

end Tabular.Storage

import Tabular.Text

/-! The tokens of a document, its indicators and its words, and the tags among them: a handle that stands for the
start of a tag, and the rest of it. A text is read with a position in it: lines count for what stands at the start of
one, columns for how deep it is indented, and the index for how far back a key may begin. -/
namespace Tabular.Yaml

def isAllowed (c : Char) : Bool :=
  let n := c.toNat
  n = 0x09 || n = 0x0A || n = 0x0D || (0x20 ≤ n && n ≤ 0x7E) || n = 0x85 ||
    (0xA0 ≤ n && n ≠ 0xFFFE && n ≠ 0xFFFF)

def isBreak (c : Char) : Bool :=
  c = '\n' || c = '\r' || c = '\x85' || c = '\u2028' || c = '\u2029'

def isBlank (c : Char) : Bool := c = ' ' || c = '\t'

def endsWord (c : Option Char) : Bool :=
  match c with
  | none => true
  | some c => isBlank c || isBreak c

structure Cursor where
  rest : List Char
  index : Nat := 0
  line : Nat := 0
  column : Nat := 0
  deriving DecidableEq, Repr

namespace Cursor

def next (c : Cursor) : Option Char := c.rest.head?

def second (c : Cursor) : Option Char := c.rest[1]?

def bound (c : Cursor) : Nat := c.rest.length + 1

def skip (c : Cursor) (n : Nat) : Cursor :=
  { c with rest := c.rest.drop n, index := c.index + n, column := c.column + n }

def span (c : Cursor) (p : Char → Bool) : List Char × Cursor :=
  let taken := c.rest.takeWhile p
  (taken, c.skip taken.length)

def skipWhile (c : Cursor) (p : Char → Bool) : Cursor := (c.span p).2

def toNextLine (c : Cursor) (n : Nat) : Cursor :=
  { rest := c.rest.drop n, index := c.index + n, line := c.line + 1, column := 0 }

def break? (c : Cursor) : Option (List Char × Cursor) :=
  match c.rest with
  | [] => none
  | b :: rest =>
    if b = '\u2028' || b = '\u2029' then some ([b], c.toNextLine 1)
    else if b = '\r' && rest.head? = some '\n' then some (['\n'], c.toNextLine 2)
    else if isBreak b then some (['\n'], c.toNextLine 1)
    else none

def atMark (c : Cursor) (mark : Char) : Bool :=
  c.column = 0 && c.rest.take 3 = [mark, mark, mark] && endsWord c.rest[3]?

def atDocumentMark (c : Cursor) : Bool := c.atMark '-' || c.atMark '.'

def lineEnd? (c : Cursor) : Option Cursor :=
  let c := c.skipWhile isBlank
  let c := if c.next = some '\x23' then c.skipWhile (!isBreak ·) else c
  match c.break? with
  | some (_, after) => some after
  | none => if c.rest.isEmpty then some c else none

end Cursor

abbrev Tag := List (Option Char)

namespace Tag

def ofText (s : String) : Tag := s.toList.map some

def text? (t : Tag) : Option String := (t.mapM id).map String.ofList

def core (name : String) : Tag := ofText ("tag:yaml.org,2002:" ++ name)

def isLocal (t : Tag) : Bool := t.head? = some (some '!')

def localName? (t : Tag) : Option String :=
  match t with
  | [some '!'] => some "!"
  | some '!' :: name => text? name
  | _ => none

end Tag

def isWordChar (c : Char) : Bool := c.isAlphanum || c = '_' || c = '-'

def tagMarks : List Char :=
  [';', '/', '?', ':', '@', '&', '=', '+', '$', '.', '!', '~', '*', '\x27', '(', ')']

def isTagChar (c : Char) : Bool := isWordChar c || tagMarks.contains c

def octetCount? (lead : Nat) : Option Nat :=
  if lead < 0x80 then some 1
  else if 0xC0 ≤ lead && lead < 0xE0 then some 2
  else if 0xE0 ≤ lead && lead < 0xF0 then some 3
  else if 0xF0 ≤ lead && lead < 0xF8 then some 4
  else none

def takeOctet? (c : Cursor) : Option (Nat × Cursor) :=
  if c.next = some '%' then (Text.hexNumber? 2 (c.rest.drop 1)).map fun n => (n, c.skip 3)
  else none

def takeTrailing? : Nat → Nat → Cursor → Option (Nat × Cursor)
  | 0, bits, c => some (bits, c)
  | n + 1, bits, c => do
    let (octet, c) ← takeOctet? c
    if octet / 0x40 = 2 then takeTrailing? n (bits * 0x40 + octet % 0x40) c else none

def leastOf : Nat → Nat
  | 2 => 0x80
  | 3 => 0x800
  | 4 => 0x10000
  | _ => 0

def takeSpelled? (c : Cursor) : Option (Option Char × Cursor) := do
  let (lead, c) ← takeOctet? c
  let n ← octetCount? lead
  let (code, c) ← takeTrailing? (n - 1) (if n = 1 then lead else lead % Nat.pow 2 (7 - n)) c
  return (if code.isValidChar && leastOf n ≤ code then some (Char.ofNat code) else none, c)

def takeTagChars? (brackets : Bool) : Nat → Cursor → Option (Tag × Cursor)
  | 0, _ => none
  | fuel + 1, c =>
    match c.next with
    | none => some ([], c)
    | some x =>
      if x = '%' then do
        let (y, c) ← takeSpelled? c
        let (t, c) ← takeTagChars? brackets fuel c
        return (y :: t, c)
      else if isTagChar x || (brackets && (x = ',' || x = '[' || x = ']')) then do
        let (t, c) ← takeTagChars? brackets fuel (c.skip 1)
        return (some x :: t, c)
      else some ([], c)

def takeSomeTag? (brackets : Bool) (c : Cursor) : Option (Tag × Cursor) := do
  let (t, after) ← takeTagChars? brackets c.bound c
  if after.index = c.index then none else return (t, after)

def takeHandle? (c : Cursor) : Option (List Char × Cursor) :=
  if c.next = some '!' then
    let (word, after) := (c.skip 1).span isWordChar
    if after.next = some '!' then some ('!' :: word ++ ['!'], after.skip 1)
    else some ('!' :: word, after)
  else none

structure WrittenTag where
  handle : List Char
  suffix : Tag
  deriving DecidableEq, Repr

def takeTagBody? (c : Cursor) : Option (WrittenTag × Cursor) :=
  if c.second = some '<' then do
    let (t, c) ← takeSomeTag? true (c.skip 2)
    if c.next = some '>' then return (⟨[], t⟩, c.skip 1) else none
  else do
    let (handle, c) ← takeHandle? c
    if 2 ≤ handle.length && handle.getLast? = some '!' then
      let (t, c) ← takeSomeTag? false c
      return (⟨handle, t⟩, c)
    else
      let (t, c) ← takeTagChars? false c.bound c
      match handle.tail.map some ++ t with
      | [] => return (⟨[], Tag.ofText "!"⟩, c)
      | suffix => return (⟨['!'], suffix⟩, c)

def takeTag? (inFlow : Bool) (c : Cursor) : Option (WrittenTag × Cursor) := do
  let (t, c) ← takeTagBody? c
  if endsWord c.next || (inFlow && c.next = some ',') then return (t, c) else none

inductive Style where
  | plain
  | quoted
  | literal
  | folded
  deriving DecidableEq, Repr

inductive Token where
  | version (major minor : Nat)
  | tagHandle (handle : List Char) (start : Tag)
  | documentStart
  | documentEnd
  | blockSequence
  | blockMapping
  | blockEnd
  | flowSequence
  | flowSequenceEnd
  | flowMapping
  | flowMappingEnd
  | item
  | separator
  | key
  | value
  | alias (name : List Char)
  | anchor (name : List Char)
  | tag (t : WrittenTag)
  | scalar (text : List Char) (style : Style)
  | streamEnd
  deriving DecidableEq, Repr

end Tabular.Yaml

import Tabular.Yaml.Scalar
import Tabular.Yaml.Token

/-! From text to tokens. Whether a word is a key shows only at the colon behind it, so its place is
kept, and the tokens for a key and for the mapping around it are put there when the colon comes.
Until that is settled nobody may read on from that place. -/
namespace Tabular.Yaml

structure OpenKey where
  place : Nat
  required : Bool
  start : Cursor
  deriving DecidableEq, Repr

def OpenKey.isOver (k : OpenKey) (c : Cursor) : Bool :=
  k.start.line < c.line || k.start.index + 1024 < c.index

structure Lexer where
  cursor : Cursor
  found : List Token := []
  margin : Nat := 0
  margins : List Nat := []
  openKey : Option OpenKey := none
  outerKeys : List (Option OpenKey) := []
  keyAllowed : Bool := true
  deriving Repr

namespace Lexer

def inFlow (l : Lexer) : Bool := !l.outerKeys.isEmpty

def push (l : Lexer) (t : Token) : Lexer := { l with found := t :: l.found }

def indicator (l : Lexer) (n : Nat) (t : Token) : Lexer :=
  { l with cursor := l.cursor.skip n, found := t :: l.found }

def insert (l : Lexer) (place : Nat) (t : Token) : Lexer :=
  let behind := l.found.length - place
  { l with found := l.found.take behind ++ t :: l.found.drop behind }

def openBlock (l : Lexer) (place column : Nat) (t : Token) : Lexer :=
  if l.inFlow || column < l.margin then l
  else { l.insert place t with margin := column + 1, margins := l.margin :: l.margins }

def closeBlocks (margin : Nat) : Nat → List Nat → List Token → Nat × List Nat × List Token
  | m, [], found => (m, [], found)
  | m, outer :: margins, found =>
    if margin < m then closeBlocks margin outer margins (.blockEnd :: found)
    else (m, outer :: margins, found)

def returnTo (l : Lexer) (margin : Nat) : Lexer :=
  if l.inFlow then l
  else
    let (m, margins, found) := closeBlocks margin l.margin l.margins l.found
    { l with margin := m, margins := margins, found := found }

def giveUp? : Option OpenKey → Option (Option OpenKey)
  | some k => if k.required then none else some none
  | none => some none

def dropKey? (l : Lexer) : Option Lexer := do
  let k ← giveUp? l.openKey
  return { l with openKey := k }

def expire? (l : Lexer) : Option Lexer := do
  let settle (k : Option OpenKey) : Option (Option OpenKey) :=
    if k.any (·.isOver l.cursor) then giveUp? k else some k
  let outer ← l.outerKeys.mapM settle
  let k ← settle l.openKey
  return { l with openKey := k, outerKeys := outer }

def noteKey? (l : Lexer) : Option Lexer :=
  if l.keyAllowed then do
    let l ← l.dropKey?
    let required := !l.inFlow && l.margin = l.cursor.column + 1
    return { l with openKey := some ⟨l.found.length, required, l.cursor⟩ }
  else some l

def settled (l : Lexer) : Nat :=
  (l.openKey :: l.outerKeys).foldl
    (fun n k => match k with | some k => min n k.place | none => n) l.found.length

def toNextToken (inFlow : Bool) : Nat → Bool → Cursor → Bool × Cursor
  | 0, allowed, c => (allowed, c)
  | fuel + 1, allowed, c =>
    let c := if c.index = 0 && c.next = some '\ufeff' then c.skip 1 else c
    let c := c.skipWhile fun x => x = ' ' || ((inFlow || !allowed) && x = '\t')
    let c := if c.next = some '\x23' then c.skipWhile (!isBreak ·) else c
    match c.break? with
    | some (_, c) => toNextToken inFlow fuel (allowed || !inFlow) c
    | none => (allowed, c)

def documentMark? (l : Lexer) (t : Token) : Option Lexer := do
  let l ← (l.returnTo 0).dropKey?
  return { l with keyAllowed := false }.indicator 3 t

def takeVersion? (c : Cursor) : Option (Token × Cursor) := do
  let (major, c) ← takeNumber? (c.skipWhile isBlank)
  if c.next ≠ some '.' then none
  let (minor, c) ← takeNumber? (c.skip 1)
  return (.version major minor, c)
where
  takeNumber? (c : Cursor) : Option (Nat × Cursor) :=
    let (digits, c) := c.span Char.isDigit
    if digits.isEmpty || 9 < digits.length then none
    else some (digits.foldl (fun n d => n * 10 + (d.toNat - 48)) 0, c)

def takeTagHandle? (c : Cursor) : Option (Token × Cursor) := do
  let (handle, c) ← takeHandle? (c.skipWhile isBlank)
  if handle.length ≠ 1 && handle.getLast? ≠ some '!' then none
  if !c.next.any isBlank then none
  let (start, c) ← takeSomeTag? true (c.skipWhile isBlank)
  if endsWord c.next then return (.tagHandle handle start, c) else none

def directive? (l : Lexer) : Option Lexer := do
  let l ← (l.returnTo 0).dropKey?
  let (name, c) := (l.cursor.skip 1).span isWordChar
  if !endsWord c.next then none
  let (t, c) ←
    if name = ['Y', 'A', 'M', 'L'] then takeVersion? c
    else if name = ['T', 'A', 'G'] then takeTagHandle? c
    else none
  let c ← c.lineEnd?
  return { l with cursor := c, keyAllowed := false, found := t :: l.found }

def openFlow? (l : Lexer) (t : Token) : Option Lexer := do
  let l ← l.noteKey?
  return { l with openKey := none, outerKeys := l.openKey :: l.outerKeys, keyAllowed := true
    }.indicator 1 t

def closeFlow? (l : Lexer) (t : Token) : Option Lexer := do
  let l ← l.dropKey?
  let l := match l.outerKeys with
    | [] => l
    | k :: outer => { l with openKey := k, outerKeys := outer }
  return { l with keyAllowed := false }.indicator 1 t

def separator? (l : Lexer) : Option Lexer := do
  let l ← l.dropKey?
  return { l with keyAllowed := true }.indicator 1 .separator

def openHere? (l : Lexer) (t : Token) : Option Lexer :=
  if l.inFlow then some l
  else if l.keyAllowed then some (l.openBlock l.found.length l.cursor.column t)
  else none

def item? (l : Lexer) : Option Lexer := do
  let l ← (← l.openHere? .blockSequence).dropKey?
  return { l with keyAllowed := true }.indicator 1 .item

def key? (l : Lexer) : Option Lexer := do
  let l ← (← l.openHere? .blockMapping).dropKey?
  return { l with keyAllowed := !l.inFlow }.indicator 1 .key

def value? (l : Lexer) : Option Lexer :=
  match l.openKey with
  | some k =>
    let l := (l.insert k.place .key).openBlock k.place k.start.column .blockMapping
    some ({ l with openKey := none, keyAllowed := false }.indicator 1 .value)
  | none => do
    let l ← l.openHere? .blockMapping
    return { l with keyAllowed := !l.inFlow }.indicator 1 .value

def word? (l : Lexer) (take? : Cursor → Option (Token × Cursor)) : Option Lexer := do
  let l ← l.noteKey?
  let (t, c) ← take? l.cursor
  return { l with cursor := c, keyAllowed := false, found := t :: l.found }

def takeName? (mark : List Char → Token) (c : Cursor) : Option (Token × Cursor) :=
  let (name, c) := (c.skip 1).span isWordChar
  let ends := endsWord c.next ||
    c.next.any fun x => ['?', ':', ',', ']', '\x7d', '%', '@', '\x60'].contains x
  if name.isEmpty || !ends then none else some (mark name, c)

def blockScalar? (l : Lexer) (folded : Bool) : Option Lexer := do
  let l ← l.dropKey?
  let (text, c) ← takeBlockScalar? folded l.margin (l.cursor.skip 1)
  let t := .scalar text (if folded then .folded else .literal)
  return { l with cursor := c, keyAllowed := true, found := t :: l.found }

def quoted? (l : Lexer) (quote : Char) : Option Lexer :=
  l.word? fun c => (takeQuoted? quote (c.skip 1)).map fun p => (.scalar p.1 .quoted, p.2)

def plain? (l : Lexer) : Option Lexer := do
  let l ← l.noteKey?
  let (text, breakLast, c) ← takePlain? l.inFlow l.margin l.cursor
  return { l with cursor := c, keyAllowed := breakLast, found := .scalar text .plain :: l.found }

def streamEnd? (l : Lexer) : Option Lexer := do
  let c := l.cursor
  let l := { l with cursor := if c.column = 0 then c else c.toNextLine 0 }
  let l ← (l.returnTo 0).dropKey?
  return { l with keyAllowed := false }.push .streamEnd

def reserved : List Char :=
  ['-', '?', ':', ',', '[', ']', '\x7b', '\x7d', '\x23', '&', '*', '!', '|', '>', '\x27', '\x22',
    '%', '@', '\x60']

def startsPlain (inFlow : Bool) (x : Char) (y : Option Char) : Bool :=
  !(endsWord (some x) || reserved.contains x) || (x = '-' && !y.any isBlank) ||
    (!inFlow && (x = '?' || x = ':') && !endsWord y)

def token? (l : Lexer) (x : Char) : Option Lexer :=
  let c := l.cursor
  let indicates := l.inFlow || endsWord c.second
  if c.column = 0 && x = '%' then l.directive?
  else if c.atMark '-' then l.documentMark? .documentStart
  else if c.atMark '.' then l.documentMark? .documentEnd
  else if x = '[' then l.openFlow? .flowSequence
  else if x = '\x7b' then l.openFlow? .flowMapping
  else if x = ']' then l.closeFlow? .flowSequenceEnd
  else if x = '\x7d' then l.closeFlow? .flowMappingEnd
  else if x = ',' then l.separator?
  else if x = '-' && endsWord c.second then l.item?
  else if x = '?' && indicates then l.key?
  else if x = ':' && indicates then l.value?
  else if x = '*' then l.word? (takeName? .alias)
  else if x = '&' then l.word? (takeName? .anchor)
  else if x = '!' then l.word? fun c => (takeTag? l.inFlow c).map fun p => (.tag p.1, p.2)
  else if x = '|' && !l.inFlow then l.blockScalar? false
  else if x = '>' && !l.inFlow then l.blockScalar? true
  else if x = '\x27' || x = '\x22' then l.quoted? x
  else if startsPlain l.inFlow x c.second then l.plain?
  else none

def step? (l : Lexer) : Option Lexer := do
  let (allowed, c) := toNextToken l.inFlow l.cursor.bound l.keyAllowed l.cursor
  let l ← { l with cursor := c, keyAllowed := allowed }.expire?
  let l := l.returnTo (c.column + 1)
  match c.next with
  | none => l.streamEnd?
  | some x => l.token? x

def run : Nat → Nat → Lexer → List Token
  | 0, ready, l => l.found.reverse.take ready
  | fuel + 1, ready, l =>
    match l.expire? with
    | none => l.found.reverse.take ready
    | some l =>
      if l.found.head? = some .streamEnd then l.found.reverse
      else match l.step? with
        | none => l.found.reverse.take l.settled
        | some next => run fuel l.settled next

end Lexer

def tokens (s : List Char) : List Token :=
  if s.all isAllowed then Lexer.run (s.length + 2) 0 { cursor := { rest := s } } else []

end Tabular.Yaml

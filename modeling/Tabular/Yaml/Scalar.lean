import Tabular.Text
import Tabular.Yaml.Token

/-! Scalars. Quoted and plain ones flow over line breaks: they are words with gaps between them, and a gap with a
line break in it stands for less than it holds. Others hold whole lines, which are read first, each with the break
that ends it and the empty lines behind it; what text they stand for is decided afterwards. -/
namespace Tabular.Yaml

structure Gap where
  blanks : List Char := []
  first : Option (List Char) := none
  more : List Char := []
  deriving DecidableEq, Repr

def Gap.hasBreak (g : Gap) : Bool := g.first.isSome

def Gap.text (g : Gap) : List Char :=
  match g.first with
  | none => g.blanks
  | some b => if b = ['\n'] then (if g.more = [] then [' '] else g.more) else b ++ g.more

def Gap.addBlank (g : Gap) (c : Char) : Gap :=
  if g.hasBreak then g else { g with blanks := g.blanks ++ [c] }

def Gap.addBreak (g : Gap) (b : List Char) : Gap :=
  if g.hasBreak then { g with more := g.more ++ b } else { g with first := some b }

def takeGap? (margin : Nat) : Nat → Gap → Cursor → Option (Gap × Cursor)
  | 0, _, _ => none
  | fuel + 1, g, c =>
    match c.break?, c.next with
    | some (b, c), _ => takeGap? margin fuel (g.addBreak b) c
    | none, some x =>
      if !isBlank x then some (g, c)
      else if x = '\t' && g.hasBreak && c.column < margin then none
      else takeGap? margin fuel (g.addBlank x) (c.skip 1)
    | none, none => some (g, c)

def letterEscapes : List (Char × Char) :=
  [('0', '\x00'), ('a', '\x07'), ('b', '\x08'), ('t', '\t'), ('\t', '\t'), ('n', '\n'),
    ('v', '\x0b'), ('f', '\x0c'), ('r', '\r'), ('e', '\x1b'), (' ', ' '), ('\x22', '\x22'),
    ('/', '/'), ('\\', '\\'), ('N', '\x85'), ('_', '\xa0'), ('L', '\u2028'), ('P', '\u2029')]

def codeEscapes : List (Char × Nat) := [('x', 2), ('u', 4), ('U', 8)]

def takeEscape? (c : Cursor) : Option (Char × Cursor) := do
  let letter ← c.next
  match letterEscapes.lookup letter with
  | some x => return (x, c.skip 1)
  | none =>
    let digits ← codeEscapes.lookup letter
    let code ← Text.hexNumber? digits (c.rest.drop 1)
    if code.isValidChar then return (Char.ofNat code, c.skip (1 + digits)) else none

def takeQuotedWord? (quote : Char) : Nat → Cursor → Option (List Char × Bool × Cursor)
  | 0, _ => none
  | fuel + 1, c =>
    match c.next with
    | none => some ([], false, c)
    | some x =>
      if endsWord (some x) then some ([], false, c)
      else if x = quote then
        if quote = '\x27' && c.second = some quote then do
          let (word, escaped, c) ← takeQuotedWord? quote fuel (c.skip 2)
          return (quote :: word, escaped, c)
        else some ([], false, c)
      else if x = '\\' && quote = '\x22' then
        match (c.skip 1).break? with
        | some (_, c) => some ([], true, c)
        | none => do
          let (y, c) ← takeEscape? (c.skip 1)
          let (word, escaped, c) ← takeQuotedWord? quote fuel c
          return (y :: word, escaped, c)
      else do
        let (word, escaped, c) ← takeQuotedWord? quote fuel (c.skip 1)
        return (x :: word, escaped, c)

def takeQuotedWords? (quote : Char) : Nat → Cursor → Option (List Char × Cursor)
  | 0, _ => none
  | fuel + 1, c =>
    if c.atDocumentMark || c.rest.isEmpty then none
    else do
      let (word, escaped, c) ← takeQuotedWord? quote c.bound c
      if c.next = some quote then return (word, c.skip 1)
      else
        let (gap, c) ← takeGap? 0 c.bound { first := if escaped then some [] else none } c
        let (more, c) ← takeQuotedWords? quote fuel c
        return (word ++ gap.text ++ more, c)

def takeQuoted? (quote : Char) (c : Cursor) : Option (List Char × Cursor) :=
  takeQuotedWords? quote c.bound c

def isBracket (c : Char) : Bool := c = '[' || c = ']' || c = '\x7b' || c = '\x7d'

def takePlainWord? (inFlow : Bool) : Nat → Cursor → Option (List Char × Cursor)
  | 0, _ => none
  | fuel + 1, c =>
    match c.next with
    | none => some ([], c)
    | some x =>
      let separates := c.second.any fun y => y = ',' || y = '?' || isBracket y
      if endsWord (some x) then some ([], c)
      else if inFlow && x = ':' && separates then none
      else if x = ':' && endsWord c.second then some ([], c)
      else if inFlow && (x = ',' || isBracket x) then some ([], c)
      else do
        let (word, c) ← takePlainWord? inFlow fuel (c.skip 1)
        return (x :: word, c)

def takePlainWords? (inFlow : Bool) (margin : Nat) :
    Nat → Gap → Cursor → Option (List Char × Bool × Cursor)
  | 0, _, _ => none
  | fuel + 1, before, c =>
    if c.atDocumentMark || c.next = some '\x23' then some ([], before.hasBreak, c)
    else do
      let (word, c) ← takePlainWord? inFlow c.bound c
      if word.isEmpty then return ([], before.hasBreak, c)
      else
        let (gap, c) ← takeGap? margin c.bound {} c
        if gap = {} then return (before.text ++ word, false, c)
        else if !inFlow && c.column < margin then return (before.text ++ word, gap.hasBreak, c)
        else
          let (more, last, c) ← takePlainWords? inFlow margin fuel gap c
          return (before.text ++ word ++ more, last, c)

def takePlain? (inFlow : Bool) (margin : Nat) (c : Cursor) : Option (List Char × Bool × Cursor) :=
  takePlainWords? inFlow margin c.bound {} c

inductive Chomping where
  | clip
  | strip
  | keep
  deriving DecidableEq, Repr

structure BlockLine where
  text : List Char
  ending : List Char
  blanks : List Char
  deriving DecidableEq, Repr

def BlockLine.isIndented (l : BlockLine) : Bool := l.text.head?.any isBlank

def BlockLine.between (folded : Bool) (l next : BlockLine) : List Char :=
  if folded && l.ending = ['\n'] && !l.isIndented && !next.isIndented then
    if l.blanks = [] then [' '] else l.blanks
  else l.ending ++ l.blanks

def BlockLine.atEnd (l : BlockLine) : Chomping → List Char
  | .strip => []
  | .clip => l.ending
  | .keep => l.ending ++ l.blanks

def joinBlock (folded : Bool) (chomping : Chomping) : BlockLine → List BlockLine → List Char
  | l, [] => l.text ++ l.atEnd chomping
  | l, next :: rest => l.text ++ l.between folded next ++ joinBlock folded chomping next rest

def blockText (folded : Bool) (chomping : Chomping) (blanks : List Char) :
    List BlockLine → List Char
  | [] => if chomping = .keep then blanks else []
  | l :: rest => blanks ++ joinBlock folded chomping l rest

structure BlockHeader where
  chomping : Chomping
  depth : Nat
  deriving DecidableEq, Repr

def takeChomping (c : Cursor) : Option Chomping × Cursor :=
  if c.next = some '+' then (some .keep, c.skip 1)
  else if c.next = some '-' then (some .strip, c.skip 1)
  else (none, c)

def takeDepth? (c : Cursor) : Option (Nat × Cursor) :=
  match c.next with
  | some d =>
    if d = '0' then none
    else if d.isDigit then some (d.toNat - 48, c.skip 1)
    else some (0, c)
  | none => some (0, c)

def takeBlockHeader? (c : Cursor) : Option (BlockHeader × Cursor) := do
  let (early, c) := takeChomping c
  let (depth, c) ← takeDepth? c
  let (late, c) := if early.isNone && depth ≠ 0 then takeChomping c else (none, c)
  let c ← c.lineEnd?
  return (⟨(early.or late).getD .clip, depth⟩, c)

def takeEmptyLines? (indent : Nat) : Nat → Nat → Cursor → Option (List Char × Nat × Cursor)
  | 0, _, _ => none
  | fuel + 1, deepest, c =>
    let spaces := (c.rest.takeWhile (· = ' ')).length
    let c := c.skip (if indent = 0 then spaces else min spaces (indent - c.column))
    let deepest := max deepest c.column
    if (indent = 0 || c.column < indent) && c.next = some '\t' then none
    else match c.break? with
      | none => some ([], deepest, c)
      | some (b, c) => do
        let (bs, deepest, c) ← takeEmptyLines? indent fuel deepest c
        return (b ++ bs, deepest, c)

def takeBlockLines? (indent : Nat) : Nat → Cursor → Option (List BlockLine × Cursor)
  | 0, _ => none
  | fuel + 1, c =>
    if c.column = indent && !c.rest.isEmpty then do
      let (text, c) := c.span (!isBreak ·)
      let (ending, c) := c.break?.getD ([], c)
      let (blanks, _, c) ← takeEmptyLines? indent c.bound 0 c
      let (more, c) ← takeBlockLines? indent fuel c
      return (⟨text, ending, blanks⟩ :: more, c)
    else some ([], c)

def takeBlockScalar? (folded : Bool) (margin : Nat) (c : Cursor) : Option (List Char × Cursor) := do
  let (header, c) ← takeBlockHeader? c
  let given := if header.depth = 0 then 0 else (margin - 1) + header.depth
  let (blanks, deepest, c) ← takeEmptyLines? given c.bound 0 c
  let indent := if given = 0 then max deepest (max margin 1) else given
  let (lines, c) ← takeBlockLines? indent c.bound c
  return (blockText folded header.chomping blanks lines, c)

end Tabular.Yaml

import Tabular.Json.Value
import Tabular.Text

/-! JSON text as a tree that may break off. Where the text stops being JSON the tree ends, and all
that was read up to there is still in it, so that a reader who goes through the tree from left to
right meets the first problem first. -/
namespace Tabular.Json

inductive Node where
  | null
  | bool (b : Bool)
  | number (l : Literal)
  -- no string stands for one half of a surrogate pair without the other
  | text (s : Option String)
  | array (items : List Node) (closed : Bool)
  | object (fields : List (Option String × Node)) (closed : Bool)
  -- an object that starts with a key which is no string
  | keyless (first : Node)
  | broken

def isSpace (c : Char) : Bool := c = ' ' || c = '\n' || c = '\t' || c = '\r'

def skipSpace (s : List Char) : List Char := s.dropWhile isSpace

def takeUnit? (s : List Char) : Option (Nat × List Char) :=
  (Text.hexNumber? 4 s).map fun n => (n, s.drop 4)

inductive Piece where
  | char (c : Char)
  | unit (n : Nat)
  deriving DecidableEq, Repr

def shortEscape? (c : Char) : Option Char :=
  if c = '\x22' || c = '\\' || c = '/' then some c
  else if c = 'b' then some '\x08'
  else if c = 'f' then some '\x0c'
  else if c = 'n' then some '\n'
  else if c = 'r' then some '\r'
  else if c = 't' then some '\t'
  else none

def takePieces? : Nat → List Char → Option (List Piece × List Char)
  | 0, _ => none
  | _, [] => none
  | fuel + 1, c :: rest =>
    if c = '\x22' then some ([], rest)
    else if c = '\\' then
      match rest with
      | [] => none
      | 'u' :: more => do
        let (n, after) ← takeUnit? more
        let (pieces, left) ← takePieces? fuel after
        return (.unit n :: pieces, left)
      | e :: more => do
        let d ← shortEscape? e
        let (pieces, left) ← takePieces? fuel more
        return (.char d :: pieces, left)
    else if c.toNat < 0x20 then none
    else do
      let (pieces, left) ← takePieces? fuel rest
      return (.char c :: pieces, left)

def isLeading (n : Nat) : Bool := 0xD800 ≤ n && n ≤ 0xDBFF

def isTrailing (n : Nat) : Bool := 0xDC00 ≤ n && n ≤ 0xDFFF

def spell? : List Piece → Option (List Char)
  | [] => some []
  | .char c :: rest => (spell? rest).map (c :: ·)
  | .unit a :: .unit b :: rest =>
    if isLeading a then
      if isTrailing b then
        (spell? rest).map (Char.ofNat (0x10000 + (a - 0xD800) * 0x400 + (b - 0xDC00)) :: ·)
      else none
    else if isTrailing a then none
    else (spell? (.unit b :: rest)).map (Char.ofNat a :: ·)
  | .unit a :: rest =>
    if isLeading a || isTrailing a then none else (spell? rest).map (Char.ofNat a :: ·)

def takeString? (s : List Char) : Option (Option String × List Char) :=
  (takePieces? (s.length + 1) s).map fun p => ((spell? p.1).map String.ofList, p.2)

def takeDigits (s : List Char) : List Nat × List Char :=
  ((s.takeWhile Char.isDigit).map fun c => c.toNat - 48, s.dropWhile Char.isDigit)

def takeSomeDigits? (s : List Char) : Option (List Nat × List Char) :=
  match takeDigits s with
  | ([], _) => none
  | r => some r

def takeFraction? (s : List Char) : Option (Option (List Nat) × List Char) :=
  match s with
  | '.' :: more => (takeSomeDigits? more).map fun p => (some p.1, p.2)
  | _ => some (none, s)

def takeExponent? (s : List Char) : Option (Option (Bool × List Nat) × List Char) :=
  match s with
  | e :: more =>
    if e = 'e' || e = 'E' then
      match more with
      | '+' :: digits => (takeSomeDigits? digits).map fun p => (some (false, p.1), p.2)
      | '-' :: digits => (takeSomeDigits? digits).map fun p => (some (true, p.1), p.2)
      | digits => (takeSomeDigits? digits).map fun p => (some (false, p.1), p.2)
    else some (none, s)
  | [] => some (none, s)

def takeUnsigned? (negative : Bool) (s : List Char) : Option (Literal × List Char) := do
  let (whole, rest) ← takeSomeDigits? s
  if whole.head? = some 0 && whole.length ≠ 1 then none
  let (fraction, rest) ← takeFraction? rest
  let (exponent, rest) ← takeExponent? rest
  return (⟨negative, whole, fraction, exponent⟩, rest)

abbrev Taken := Node × Option (List Char)

def takeWord (word : List Char) (n : Node) (s : List Char) : Taken :=
  match Text.afterStart? word s with
  | some rest => (n, some rest)
  | none => (.broken, none)

def takeNumber (negative : Bool) (s : List Char) : Taken :=
  match takeUnsigned? negative s with
  | some (l, rest) => (.number l, some rest)
  | none => (.broken, none)

mutual

def takeValue : Nat → List Char → Taken
  | 0, _ => (.broken, none)
  | fuel + 1, s =>
    match skipSpace s with
    | [] => (.broken, none)
    | c :: rest =>
      if c = 'n' then takeWord ['u', 'l', 'l'] .null rest
      else if c = 't' then takeWord ['r', 'u', 'e'] (.bool true) rest
      else if c = 'f' then takeWord ['a', 'l', 's', 'e'] (.bool false) rest
      else if c = '\x22' then
        match takeString? rest with
        | some (s, after) => (.text s, some after)
        | none => (.broken, none)
      else if c = '-' then takeNumber true rest
      else if c.isDigit then takeNumber false (c :: rest)
      else if c = '[' then
        match skipSpace rest with
        | ']' :: after => (.array [] true, some after)
        | body =>
          let r := takeItems fuel body
          (.array r.1 r.2.isSome, r.2)
      else if c = '\x7b' then
        match skipSpace rest with
        | '\x7d' :: after => (.object [] true, some after)
        | '\x22' :: body =>
          let r := takeFields fuel body
          (.object r.1 r.2.isSome, r.2)
        | body => (.keyless (takeValue fuel body).1, none)
      else (.broken, none)

def takeItems : Nat → List Char → List Node × Option (List Char)
  | 0, _ => ([], none)
  | fuel + 1, s =>
    match takeValue fuel s with
    | (v, none) => ([v], none)
    | (v, some rest) =>
      match skipSpace rest with
      | ',' :: more =>
        let r := takeItems fuel more
        (v :: r.1, r.2)
      | ']' :: after => ([v], some after)
      | _ => ([v], none)

def takeFields : Nat → List Char → List (Option String × Node) × Option (List Char)
  | 0, _ => ([], none)
  | fuel + 1, s =>
    match takeString? s with
    | none => ([], none)
    | some (key, rest) =>
      match skipSpace rest with
      | ':' :: body =>
        match takeValue fuel body with
        | (v, none) => ([(key, v)], none)
        | (v, some left) =>
          match skipSpace left with
          | ',' :: more =>
            match skipSpace more with
            | '\x22' :: next =>
              let r := takeFields fuel next
              ((key, v) :: r.1, r.2)
            | _ => ([(key, v)], none)
          | '\x7d' :: after => ([(key, v)], some after)
          | _ => ([(key, v)], none)
      | _ => ([(key, .broken)], none)

end

def parse (s : List Char) : Taken := takeValue (2 * s.length + 1) s

mutual

def Node.isComplete : Node → Bool
  | .array items closed => closed && allComplete items
  | .object fields closed => closed && fieldsComplete fields
  | .keyless _ => false
  | .broken => false
  | _ => true

def allComplete : List Node → Bool
  | [] => true
  | n :: rest => n.isComplete && allComplete rest

def fieldsComplete : List (Option String × Node) → Bool
  | [] => true
  | (_, n) :: rest => n.isComplete && fieldsComplete rest

end

end Tabular.Json

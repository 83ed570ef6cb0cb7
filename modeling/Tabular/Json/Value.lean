import Tabular.Decimal.Shortest

/-! JSON values, their text with two spaces of indentation a level, and the numbers of such text. Whole numbers that
fit 64 bits are kept as they are; all others become floating-point numbers, computed from the first digits that fit
64 bits and a power of ten. -/
namespace Tabular.Json

inductive Value where
  | null
  | bool (b : Bool)
  | text (s : String)
  | array (items : List Value)
  | object (fields : List (String × Value))

def hexDigit (n : Nat) : Char := if n < 10 then Char.ofNat (48 + n) else Char.ofNat (87 + n)

def escapeChar (c : Char) : List Char :=
  if c = '\x22' || c = '\\' then ['\\', c]
  else if c = '\x08' then ['\\', 'b']
  else if c = '\x0c' then ['\\', 'f']
  else if c = '\n' then ['\\', 'n']
  else if c = '\r' then ['\\', 'r']
  else if c = '\t' then ['\\', 't']
  else if c.toNat < 0x20 then
    ['\\', 'u', '0', '0', hexDigit (c.toNat / 16), hexDigit (c.toNat % 16)]
  else [c]

def quotedChars (s : String) : List Char := '\x22' :: s.toList.flatMap escapeChar ++ ['\x22']

def newLine (depth : Nat) : List Char := '\n' :: List.replicate (2 * depth) ' '

mutual

def Value.chars (depth : Nat) : Value → List Char
  | .null => "null".toList
  | .bool b => if b then "true".toList else "false".toList
  | .text s => quotedChars s
  | .array [] => ['[', ']']
  | .array (v :: rest) =>
    '[' :: newLine (depth + 1) ++ v.chars (depth + 1) ++ itemChars (depth + 1) rest
      ++ newLine depth ++ [']']
  | .object [] => ['\x7b', '\x7d']
  | .object ((key, v) :: rest) =>
    '\x7b' :: newLine (depth + 1) ++ quotedChars key ++ [':', ' '] ++ v.chars (depth + 1)
      ++ fieldChars (depth + 1) rest ++ newLine depth ++ ['\x7d']

def itemChars (depth : Nat) : List Value → List Char
  | [] => []
  | v :: rest => ',' :: newLine depth ++ v.chars depth ++ itemChars depth rest

def fieldChars (depth : Nat) : List (String × Value) → List Char
  | [] => []
  | (key, v) :: rest =>
    ',' :: newLine depth ++ quotedChars key ++ [':', ' '] ++ v.chars depth
      ++ fieldChars depth rest

end

def Value.render (v : Value) : String := String.ofList (v.chars 0 ++ ['\n'])

def optional (s : Option String) : Value :=
  match s with
  | none => .null
  | some s => .text s

def texts (l : List String) : Value := .array (l.map .text)

structure Literal where
  negative : Bool
  whole : List Nat
  fraction : Option (List Nat) := none
  exponent : Option (Bool × List Nat) := none
  deriving DecidableEq, Repr

inductive Amount where
  | natural (n : Nat)
  | negative (n : Nat)
  | float (x : Float)

def wordLimit : Nat := Nat.pow 2 64

def absorb : Nat → List Nat → Nat × Nat
  | n, [] => (n, 0)
  | n, d :: rest =>
    if n * 10 + d < wordLimit then
      let r := absorb (n * 10 + d) rest
      (r.1, r.2 + 1)
    else (n, 0)

def floatOf (n : Nat) : Float := Float.ofScientific n false 0

def tenPower (k : Nat) : Float := Float.ofScientific 1 false k

def divideByTens : Nat → Float → Nat → Float
  | 0, x, _ => x
  | steps + 1, x, k =>
    if k ≤ 308 then x / tenPower k
    else if x == 0 then x
    else divideByTens steps (x / tenPower 308) (k - 308)

def scaled? (n : Nat) (e : Int) : Option Float :=
  if 0 ≤ e then
    if e ≤ 308 then
      let x := floatOf n * tenPower e.toNat
      if x.isInf then none else some x
    else if n = 0 then some 0 else none
  else some (divideByTens ((-e).toNat / 308 + 1) (floatOf n) (-e).toNat)

def natOf (digits : List Nat) : Nat := digits.foldl (fun n d => n * 10 + d) 0

def signed (negative : Bool) (x : Float) : Float := if negative then -x else x

def Literal.amount? (l : Literal) : Option Amount :=
  let whole := absorb 0 l.whole
  let dropped := l.whole.length - whole.2
  match l.fraction, l.exponent with
  | none, none =>
    if dropped = 0 then
      if !l.negative then some (.natural whole.1)
      else if whole.1 = 0 || Nat.pow 2 63 < whole.1 then some (.float (-(floatOf whole.1)))
      else some (.negative whole.1)
    else (scaled? whole.1 dropped).map fun x => .float (signed l.negative x)
  | fraction, exponent =>
    let all := absorb whole.1 (fraction.getD [])
    let e := (dropped : Int) - (all.2 : Int)
    match exponent with
    | none => (scaled? all.1 e).map fun x => .float (signed l.negative x)
    | some (down, digits) =>
      let k := natOf digits
      if Nat.pow 2 31 ≤ k then
        if all.1 ≠ 0 && !down then none else some (.float (signed l.negative 0))
      else
        (scaled? all.1 (if down then e - (k : Int) else e + (k : Int))).map fun x =>
          .float (signed l.negative x)

def Amount.text : Amount → String
  | .natural n => "integer \x60" ++ toString n ++ "\x60"
  | .negative n => "integer \x60-" ++ toString n ++ "\x60"
  | .float x => "floating point \x60" ++ Decimal.compact x ++ "\x60"

end Tabular.Json

import Tabular.Decimal.Shortest
import Tabular.Text

/-! What plain scalars stand for: nothing, a flag, a number or else text. -/
namespace Tabular.Yaml

inductive Core where
  | null
  | bool (b : Bool)
  | integer (n : Int)
  | float (x : Float)
  | text

def isNull (s : String) : Bool := s = "null" || s = "Null" || s = "NULL" || s = "~"

def flag? (s : String) : Option Bool :=
  if s = "true" || s = "True" || s = "TRUE" then some true
  else if s = "false" || s = "False" || s = "FALSE" then some false
  else none

def afterPlus (s : List Char) : List Char :=
  match s with
  | '+' :: rest => rest
  | _ => s

def isPadded (s : List Char) : Bool :=
  let digits := match s with
    | '-' :: rest => rest
    | _ => afterPlus s
  1 < digits.length && digits.head? = some '0' && digits.all Char.isDigit

def natural? (base : Nat) (s : List Char) : Option Nat :=
  if s.isEmpty then none
  else s.foldlM (fun n c => do
    let d ← Text.hexValue? c
    if d < base then some (n * base + d) else none) 0

def magnitude? (s : List Char) : Option Nat :=
  match s with
  | '0' :: 'x' :: rest => natural? 16 rest
  | '0' :: 'o' :: rest => natural? 8 rest
  | '0' :: 'b' :: rest => natural? 2 rest
  | _ => if isPadded s then none else natural? 10 s

def integer? (s : List Char) : Option Int :=
  match s with
  | '-' :: rest => do
    let n ← magnitude? rest
    if n ≤ Nat.pow 2 127 then some (-(n : Int)) else none
  | _ => do
    let n ← magnitude? (afterPlus s)
    if n < Nat.pow 2 128 then some (n : Int) else none

def scientific? (s : List Char) : Option (Nat × Int) := do
  let whole := s.takeWhile Char.isDigit
  let rest := s.dropWhile Char.isDigit
  let fraction := match rest with
    | '.' :: more => more.takeWhile Char.isDigit
    | _ => []
  let rest := match rest with
    | '.' :: more => more.dropWhile Char.isDigit
    | _ => rest
  let digits ← natural? 10 (whole ++ fraction)
  let exponent ← match rest with
    | [] => some 0
    | e :: more =>
      if e ≠ 'e' && e ≠ 'E' then none
      else match more with
        | '-' :: ds => (natural? 10 ds).map fun n => -(n : Int)
        | _ => (natural? 10 (afterPlus more)).map fun n => (n : Int)
  return (digits, exponent - fraction.length)

def nearest? (n : Nat) (e : Int) : Option Float :=
  let size := ((Nat.toDigits 10 n).length : Int) + e
  if n = 0 || size < -330 then some 0
  else if 310 < size then none
  else
    let x := Float.ofScientific n (decide (e < 0)) e.natAbs
    if x.isInf then none else some x

def infinity : Float := 1.0 / 0.0

def float? (s : List Char) : Option Float :=
  match s with
  | '-' :: rest =>
    if isInfinity rest then some (-infinity) else (finite? rest).map fun x => -x
  | _ =>
    let rest := afterPlus s
    if isInfinity rest then some infinity
    else if s = ".nan".toList || s = ".NaN".toList || s = ".NAN".toList then some (0.0 / 0.0)
    else finite? rest
where
  isInfinity (s : List Char) : Bool :=
    s = ".inf".toList || s = ".Inf".toList || s = ".INF".toList
  finite? (s : List Char) : Option Float := do
    let (n, e) ← scientific? s
    nearest? n e

def Core.ofPlain (s : String) : Core :=
  if s.isEmpty || isNull s then .null
  else match flag? s with
    | some b => .bool b
    | none =>
      match integer? s.toList with
      | some n => .integer n
      | none =>
        if isPadded s.toList then .text
        else match float? s.toList with
          | some x => .float x
          | none => .text

def integerText (n : Int) : String :=
  let shown := "integer \x60" ++ toString n ++ "\x60"
  if n < -(Nat.pow 2 63 : Int) then shown ++ " as i128"
  else if (Nat.pow 2 64 : Int) ≤ n then shown ++ " as u128"
  else shown

def floatText (x : Float) : String := "floating point \x60" ++ Decimal.plain x ++ "\x60"

end Tabular.Yaml

/-! The fewest decimal digits that read back to a given floating-point number. A finite number stands
for all reals that round to it; of the decimals among them the one with the fewest digits is
chosen, and of two with equally many the nearer. -/
namespace Tabular.Decimal

structure Binary where
  m : Nat
  q : Int
  narrow : Bool
  deriving DecidableEq, Repr

def Binary.ofBits (b : UInt64) : Binary :=
  let e := ((b >>> 52) &&& 0x7FF).toNat
  let f := (b &&& 0xFFFFFFFFFFFFF).toNat
  if e = 0 then ⟨f, -1074, false⟩ else ⟨Nat.pow 2 52 + f, (e : Int) - 1075, f = 0 && 1 < e⟩

structure Digits where
  digits : Nat
  exponent : Int
  deriving DecidableEq, Repr

def compareScaled (a : Nat) (i : Int) (n : Nat) (j : Int) : Ordering :=
  compare (a * Nat.pow 10 i.toNat * Nat.pow 2 (-j).toNat)
    (n * Nat.pow 2 j.toNat * Nat.pow 10 (-i).toNat)

def Binary.readsBack (x : Binary) (d : Digits) : Bool :=
  let low := if x.narrow then 4 * x.m - 1 else 4 * x.m - 2
  -- the ends of the interval that rounds to `x` belong to it if `m` is even
  let even := x.m % 2 = 0
  let below := compareScaled d.digits d.exponent low (x.q - 2)
  let above := compareScaled d.digits d.exponent (4 * x.m + 2) (x.q - 2)
  (below = .gt || (even && below = .eq)) && (above = .lt || (even && above = .eq))

def scaleFrom (x : Binary) : Nat → Int → Int
  | 0, k => k
  | tries + 1, k => if compareScaled 1 k x.m x.q = .gt then k else scaleFrom x tries (k + 1)

def scale (x : Binary) : Int :=
  scaleFrom x 4 (Int.fdiv (((x.m.log2 : Int) + x.q) * 30103) 100000 - 1)

def neighbour (x : Binary) (e : Int) : Nat :=
  (x.m * Nat.pow 2 x.q.toNat * Nat.pow 10 (-e).toNat) /
    (Nat.pow 10 e.toNat * Nat.pow 2 (-x.q).toNat)

def nearer (x : Binary) (tiesUp : Bool) (n : Nat) (e : Int) : Digits :=
  match compareScaled (2 * n + 1) e x.m (x.q + 1) with
  | .lt => ⟨n + 1, e⟩
  | .gt => ⟨n, e⟩
  | .eq => if tiesUp || n % 2 = 1 then ⟨n + 1, e⟩ else ⟨n, e⟩

def candidate? (x : Binary) (tiesUp : Bool) (e : Int) : Option Digits :=
  let n := neighbour x e
  match x.readsBack ⟨n, e⟩, x.readsBack ⟨n + 1, e⟩ with
  | true, true => some (nearer x tiesUp n e)
  | true, false => some ⟨n, e⟩
  | false, true => some ⟨n + 1, e⟩
  | false, false => none

def stripZeros : Nat → Digits → Digits
  | 0, d => d
  | tries + 1, d =>
    if d.digits ≠ 0 ∧ d.digits % 10 = 0 then stripZeros tries ⟨d.digits / 10, d.exponent + 1⟩
    else d

def Binary.exact (x : Binary) : Digits :=
  if 0 ≤ x.q then ⟨x.m * Nat.pow 2 x.q.toNat, 0⟩
  else ⟨x.m * Nat.pow 5 (-x.q).toNat, x.q⟩

def shortest (x : Binary) (tiesUp : Bool) : Digits :=
  if x.m = 0 then ⟨0, 0⟩
  else
    let k := scale x
    let found := (List.range 17).findSome? fun (n : Nat) => candidate? x tiesUp (k - 1 - (n : Int))
    stripZeros 400 (found.getD x.exact)

def zeros (n : Nat) : List Char := List.replicate n '0'

def positional (d : Digits) : List Char :=
  let ds := Nat.toDigits 10 d.digits
  let point := (ds.length : Int) + d.exponent
  if 0 ≤ d.exponent then ds ++ zeros d.exponent.toNat ++ ['.', '0']
  else if 0 < point then ds.take point.toNat ++ '.' :: ds.drop point.toNat
  else '0' :: '.' :: zeros (-point).toNat ++ ds

def scientific (d : Digits) : List Char :=
  let ds := Nat.toDigits 10 d.digits
  let e := (ds.length : Int) - 1 + d.exponent
  let mark := Nat.toDigits 10 e.natAbs
  (match ds with
    | [] => []
    | [c] => [c]
    | c :: rest => c :: '.' :: rest)
    ++ ['e', if e < 0 then '-' else '+'] ++ zeros (2 - mark.length) ++ mark

def compactChars (d : Digits) : List Char :=
  let e := ((Nat.toDigits 10 d.digits).length : Int) - 1 + d.exponent
  if -5 ≤ e ∧ e ≤ 15 then positional d else scientific d

def withSign (b : UInt64) (s : List Char) : List Char := if b >>> 63 = 1 then '-' :: s else s

def compact (x : Float) : String :=
  let b := x.toBits
  String.ofList (withSign b (compactChars (shortest (Binary.ofBits b) false)))

def plain (x : Float) : String :=
  let b := x.toBits
  if x.isNaN then "NaN"
  else if x.isInf then String.ofList (withSign b ['i', 'n', 'f'])
  else String.ofList (withSign b (positional (shortest (Binary.ofBits b) true)))

end Tabular.Decimal

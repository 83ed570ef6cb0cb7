import Tabular.Unicode.Class
import Tabular.Unicode.Printable

/-! Lines, digits, quotes and numbered names. A line feed ends a line, together with one carriage return right before
it; a carriage return elsewhere belongs to its line. What follows the last line feed is a line only if it is not
empty. Between double quotes, whatever cannot be seen and every mark that would attach to its neighbour is given by
its code point. Names are told apart by a number: of the candidates for a name, the first one whose key nobody has
taken wins. -/
namespace Tabular.Text
open Unicode

def consFirst (c : Char) : List (List Char) → List (List Char)
  | [] => [[c]]
  | line :: rest => (c :: line) :: rest

def lines : List Char → List (List Char)
  | [] => []
  | '\n' :: rest => [] :: lines rest
  | '\r' :: '\n' :: rest => [] :: lines rest
  | c :: rest => consFirst c (lines rest)

def joinLines : List (List Char) → List Char
  | [] => []
  | [line] => line
  | line :: rest => line ++ '\n' :: joinLines rest

def trimStart (s : List Char) : List Char := s.dropWhile isBlank

def dropEndWhile (p : Char → Bool) : List Char → List Char
  | [] => []
  | c :: rest =>
    match dropEndWhile p rest with
    | [] => if p c then [] else [c]
    | kept => c :: kept

def trimEnd (s : List Char) : List Char := dropEndWhile isBlank s

def trim (s : List Char) : List Char := trimEnd (trimStart s)

def afterStart? : List Char → List Char → Option (List Char)
  | [], s => some s
  | _ :: _, [] => none
  | c :: start, d :: s => if c = d then afterStart? start s else none

def splitOnce? (mark : List Char) : List Char → Option (List Char × List Char)
  | [] => none
  | c :: rest =>
    match afterStart? mark (c :: rest) with
    | some after => some ([], after)
    | none => (splitOnce? mark rest).map fun p => (c :: p.1, p.2)

def hexValue? (c : Char) : Option Nat :=
  if '0' ≤ c && c ≤ '9' then some (c.toNat - 48)
  else if 'a' ≤ c && c ≤ 'f' then some (c.toNat - 87)
  else if 'A' ≤ c && c ≤ 'F' then some (c.toNat - 55)
  else none

def hexNumber? : Nat → List Char → Option Nat
  | 0, _ => some 0
  | _ + 1, [] => none
  | n + 1, c :: rest => do
    let d ← hexValue? c
    let low ← hexNumber? n rest
    return d * Nat.pow 16 n + low

def hex (n : Nat) : List Char := Nat.toDigits 16 n

def escapeChar (c : Char) : List Char :=
  if c = '\x00' then ['\\', '0']
  else if c = '\t' then ['\\', 't']
  else if c = '\r' then ['\\', 'r']
  else if c = '\n' then ['\\', 'n']
  else if c = '\x22' || c = '\\' then ['\\', c]
  else if isGraphemeExtend c || !isPrintable c then
    ['\\', 'u', '\x7b'] ++ hex c.toNat ++ ['\x7d']
  else [c]

def quotedChars (s : List Char) : List Char := '\x22' :: s.flatMap escapeChar ++ ['\x22']

def quoted (s : String) : String := String.ofList (quotedChars s.toList)

variable {α κ : Type} [BEq κ]

/-- The first free candidate. Among one more candidates than taken keys one is free, as long as
candidates have different keys, so no later one is tried. -/
def firstFree (key : α → κ) (taken : List κ) (candidate : Nat → α) : α := go taken.length 0
where
  go : Nat → Nat → α
    | 0, k => candidate k
    | tries + 1, k =>
      if taken.contains (key (candidate k)) then go tries (k + 1) else candidate k

def claimAll {β : Type} (key : α → κ) (candidate : β → Nat → α) : List κ → List β → List α
  | _, [] => []
  | taken, b :: rest =>
    let name := firstFree key taken (candidate b)
    name :: claimAll key candidate (key name :: taken) rest

def decimal (n : Nat) : List Char := Nat.toDigits 10 n

end Tabular.Text

import Tabular.Text
import Tabular.Unicode.Class

/-! What may stand on a line of definition text. A name that starts with a letter or `_` and goes on with letters,
numbers and `_` is written bare; every other one stands between apostrophes, with the apostrophes inside it doubled.
A formula in normal form has no blank lines, no blanks at line ends and no indentation that all its lines share,
where only spaces and tabs count as indentation. A literal of the query language spells line breaks and tabs, so that
it never leaves its line. Lines stand a number of tabs deep, and objects are told apart by depth alone. -/
namespace Tabular.Name
open Unicode

def startsBare (c : Char) : Bool := isAlphabetic c || c = '_'

def continuesBare (c : Char) : Bool := isAlphanumeric c || c = '_'

def isBare : List Char → Bool
  | [] => false
  | c :: rest => startsBare c && rest.all continuesBare

def doubleMarks : List Char → List Char
  | [] => []
  | '\x27' :: rest => '\x27' :: '\x27' :: doubleMarks rest
  | c :: rest => c :: doubleMarks rest

def encode (n : List Char) : List Char :=
  if isBare n then n else '\x27' :: doubleMarks n ++ ['\x27']

def takeQuoted? : List Char → Option (List Char × List Char)
  | [] => none
  | '\x27' :: '\x27' :: rest => (takeQuoted? rest).map fun p => ('\x27' :: p.1, p.2)
  | '\x27' :: rest => some ([], rest)
  | c :: rest => (takeQuoted? rest).map fun p => (c :: p.1, p.2)

def take? : List Char → Option (List Char × List Char)
  | [] => none
  | '\x27' :: rest => takeQuoted? rest
  | c :: rest =>
    if startsBare c then
      some ((c :: rest).takeWhile continuesBare, (c :: rest).dropWhile continuesBare)
    else none

def decode? (s : List Char) : Option (List Char) :=
  match take? s with
  | some (n, []) => some n
  | _ => none

def needsQuoting (name : String) : Bool := !isBare name.toList

def quote (name : String) : String := String.ofList (encode name.toList)

def unquote? (token : String) : Option String := (decode? token.toList).map String.ofList

def encodePair (table column : List Char) : List Char := encode table ++ '.' :: encode column

def decodePair? (s : List Char) : Option (List Char × List Char) :=
  match take? s with
  | some (table, '.' :: rest) => (decode? rest).map fun column => (table, column)
  | _ => none

def qualified (table column : String) : String :=
  String.ofList (encodePair table.toList column.toList)

def splitQualified? (s : String) : Option (String × String) :=
  (decodePair? s.toList).map fun p => (String.ofList p.1, String.ofList p.2)

end Tabular.Name

namespace Tabular.Expression
open Text

def isIndent (c : Char) : Bool := c = ' ' || c = '\t'

def indentation (line : List Char) : Nat := (line.takeWhile isIndent).length

def filledLines (e : List Char) : List (List Char) :=
  ((lines e).map trimEnd).filter fun line => !line.isEmpty

def commonIndentation (ls : List (List Char)) : Nat := (ls.map indentation).min?.getD 0

def normalLines (e : List Char) : List (List Char) :=
  let ls := filledLines e
  ls.map (·.drop (commonIndentation ls))

def normalChars (e : List Char) : List Char := joinLines (normalLines e)

def normalize (e : String) : String := String.ofList (normalChars e.toList)

end Tabular.Expression

namespace Tabular.Definition
open Text

def escapeQuery : List Char → List Char
  | [] => []
  | '\x22' :: rest => '\x22' :: '\x22' :: escapeQuery rest
  | '\n' :: rest => '\x23' :: '(' :: 'l' :: 'f' :: ')' :: escapeQuery rest
  | '\r' :: rest => '\x23' :: '(' :: 'c' :: 'r' :: ')' :: escapeQuery rest
  | '\t' :: rest => '\x23' :: '(' :: 't' :: 'a' :: 'b' :: ')' :: escapeQuery rest
  -- a number sign is escaped only where it would start an escape itself
  | '\x23' :: '(' :: rest => '\x23' :: '(' :: '\x23' :: ')' :: '(' :: escapeQuery rest
  | c :: rest => c :: escapeQuery rest

def queryLiteralChars (value : List Char) : List Char := '\x22' :: escapeQuery value ++ ['\x22']

def queryLiteral (value : String) : String := String.ofList (queryLiteralChars value.toList)

structure Line where
  depth : Nat
  text : String
  deriving DecidableEq, Repr

def Line.blank : Line := ⟨0, ""⟩

def Line.chars (l : Line) : List Char := List.replicate l.depth '\t' ++ l.text.toList ++ ['\n']

def render (ls : List Line) : String := String.ofList (ls.flatMap Line.chars)

def separated : List (List Line) → List Line
  | [] => []
  | [block] => block
  | block :: rest => block ++ Line.blank :: separated rest

def spaced (blocks : List (List Line)) : List Line := blocks.flatMap (Line.blank :: ·)

def commentText (line : List Char) : String :=
  if line.all Unicode.isBlank then "///" else "/// " ++ String.ofList (trimEnd line)

def comment (depth : Nat) : Option String → List Line
  | none => []
  | some d => (lines (trim d.toList)).map fun l => ⟨depth, commentText l⟩

def formula (depth : Nat) (header expression : String) : List Line :=
  match Expression.normalLines expression.toList with
  | [] => [⟨depth, header ++ " ="⟩]
  | [line] => [⟨depth, header ++ " = " ++ String.ofList line⟩]
  | body => ⟨depth, header ++ " ="⟩ :: body.map fun l => ⟨depth + 2, String.ofList l⟩

def property? (depth : Nat) (key : String) : Option String → List Line
  | none => []
  | some value => [⟨depth, key ++ ": " ++ value⟩]

def flag (depth : Nat) (key : String) (on : Bool) : List Line := if on then [⟨depth, key⟩] else []

end Tabular.Definition

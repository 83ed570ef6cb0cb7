import Tabular.Definition.Line
import Tabular.Proofs.Text.Lines

/-! String literals of the query language, decoded from left to right. A literal tells where it ends
and what it stands for, whatever follows it. -/
namespace Tabular.Definition
open Text

def decodeQuery : List Char → Option (List Char × List Char)
  | [] => none
  | '\x22' :: '\x22' :: rest => (decodeQuery rest).map fun p => ('\x22' :: p.1, p.2)
  | '\x22' :: rest => some ([], rest)
  | '\x23' :: '(' :: 'l' :: 'f' :: ')' :: rest => (decodeQuery rest).map fun p => ('\n' :: p.1, p.2)
  | '\x23' :: '(' :: 'c' :: 'r' :: ')' :: rest => (decodeQuery rest).map fun p => ('\r' :: p.1, p.2)
  | '\x23' :: '(' :: 't' :: 'a' :: 'b' :: ')' :: rest =>
    (decodeQuery rest).map fun p => ('\t' :: p.1, p.2)
  | '\x23' :: '(' :: '\x23' :: ')' :: rest =>
    (decodeQuery rest).map fun p => ('\x23' :: p.1, p.2)
  | c :: rest => (decodeQuery rest).map fun p => (c :: p.1, p.2)

theorem decodePlain {c : Char} {rest : List Char} (noQuote : c ≠ '\x22')
    (noEscape : c = '\x23' → rest.head? ≠ some '(') :
    decodeQuery (c :: rest) = (decodeQuery rest).map fun p => (c :: p.1, p.2) := by
  rw [decodeQuery.eq_def]
  split <;> simp_all

theorem escapeBracket {v rest : List Char} (first : (escapeQuery v ++ '\x22' :: rest).head? = some '(') :
    v.head? = some '(' := by
  revert first
  fun_cases escapeQuery v <;> simp

theorem decodeEscape {rest : List Char} (v : List Char) (stops : rest.head? ≠ some '\x22') :
    decodeQuery (escapeQuery v ++ '\x22' :: rest) = some (v, rest) := by
  fun_induction escapeQuery v with
  | case1 =>
    cases rest with
    | nil => rfl
    | cons c rest =>
      have other : c ≠ '\x22' := by simpa using stops
      simp [decodeQuery, other]
  | case2 v ih => simp [decodeQuery, ih]
  | case3 v ih => simp [decodeQuery, ih]
  | case4 v ih => simp [decodeQuery, ih]
  | case5 v ih => simp [decodeQuery, ih]
  | case6 v ih =>
    have bracket : decodeQuery ('(' :: (escapeQuery v ++ '\x22' :: rest)) = some ('(' :: v, rest) := by
      rw [decodePlain (by decide) (fun isSign => absurd isSign (by decide)), ih, Option.map_some]
    simp [decodeQuery, bracket]
  | case7 c v noQuote _ _ _ noEscape ih =>
    rw [List.cons_append, decodePlain noQuote, ih, Option.map_some]
    intro isSign first
    have bracket := escapeBracket first
    cases v with
    | nil => simp at bracket
    | cons d v => exact noEscape v isSign (by simpa using bracket)

theorem literalInjective {a b rest more : List Char} (stops : rest.head? ≠ some '\x22')
    (ends : more.head? ≠ some '\x22')
    (same : queryLiteralChars a ++ rest = queryLiteralChars b ++ more) : a = b ∧ rest = more := by
  simp only [queryLiteralChars, List.cons_append, List.append_assoc, List.nil_append, List.cons.injEq,
    true_and] at same
  have h := (decodeEscape a stops).symm.trans ((congrArg decodeQuery same).trans (decodeEscape b ends))
  simpa using h

def breaksLine (c : Char) : Bool := c = '\n' || c = '\r' || c = '\t'

theorem escapeSolid (v : List Char) : ∀ c ∈ escapeQuery v, breaksLine c = false := by
  fun_induction escapeQuery v with
  | case1 => simp
  | case2 v ih => simpa [breaksLine] using ih
  | case3 v ih => simpa [breaksLine] using ih
  | case4 v ih => simpa [breaksLine] using ih
  | case5 v ih => simpa [breaksLine] using ih
  | case6 v ih => simpa [breaksLine] using ih
  | case7 c v _ noFeed noReturn noTab _ ih =>
    have solid : breaksLine c = false := by
      simpa [breaksLine] using ⟨⟨noFeed, noReturn⟩, noTab⟩
    exact List.forall_mem_cons.mpr ⟨solid, ih⟩

theorem literalSolid (v : List Char) : ∀ c ∈ queryLiteralChars v, breaksLine c = false := by
  have quote : breaksLine '\x22' = false := by decide
  intro c member
  simp only [queryLiteralChars, List.mem_append, List.mem_cons, List.not_mem_nil, or_false] at member
  rcases member with (rfl | inside) | rfl
  · exact quote
  · exact escapeSolid v c inside
  · exact quote

theorem literalFlat (v : List Char) : OneLine (queryLiteralChars v) := fun feed => by
  have := literalSolid v _ feed
  contradiction

end Tabular.Definition

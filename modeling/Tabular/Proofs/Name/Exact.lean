import Mathlib.Data.List.TakeWhile
import Tabular.Proofs.Name.Token

/-! The texts that are read as a token, and the texts that are read as a pair of tokens. A word can be written
as it is or between apostrophes, every other name only between apostrophes, and no text is read in two ways.
What stands behind a token is not looked at beyond its first character. -/
namespace Tabular.Name

structure Word (n : List Char) : Prop where
  starts : ∃ c ∈ n.head?, startsBare c = true
  continues : ∀ c ∈ n, continuesBare c = true

def marked (n : List Char) : List Char :=
  '\x27' :: n.flatMap (fun c => if c = '\x27' then [c, c] else [c]) ++ ['\x27']

structure BareToken (n rest input : List Char) : Prop where
  word : Word n
  whole : input = n ++ rest
  stops : ∀ c ∈ rest.head?, continuesBare c = false

structure MarkedToken (n rest input : List Char) : Prop where
  whole : input = marked n ++ rest
  stops : rest.head? ≠ some '\x27'

def goesOn (n : List Char) (c : Char) : Bool := if isBare n then continuesBare c else c = '\x27'

inductive Spelling (n : List Char) : List Char → Prop
  | bare (word : Word n) : Spelling n n
  | marked : Spelling n (marked n)

theorem wordBare {n : List Char} : Word n ↔ isBare n = true := by
  cases n with
  | nil => exact iff_of_false (fun word => by simpa using word.starts) (by simp [isBare])
  | cons c n =>
    constructor
    · rintro ⟨⟨_, first, starts⟩, continues⟩
      cases Option.some.inj first
      simpa [isBare, starts] using fun d mem => continues d (List.mem_cons_of_mem _ mem)
    · intro bare
      refine ⟨⟨c, rfl, ?_⟩, bareContinues bare⟩
      simp only [isBare, Bool.and_eq_true] at bare
      exact bare.1

theorem markedDoubled (n : List Char) : marked n = '\x27' :: doubleMarks n ++ ['\x27'] := by
  have doubled : n.flatMap (fun c => if c = '\x27' then [c, c] else [c]) = doubleMarks n := by
    fun_induction doubleMarks n with
    | case1 => rfl
    | case2 n ih => simp [ih]
    | case3 c n other ih =>
      have differs : c ≠ '\x27' := other
      simp [ih, differs]
  rw [marked, doubled]

theorem encodeSpelling (n : List Char) : Spelling n (encode n) := by
  unfold encode
  split
  · rename_i bare
    exact .bare (wordBare.mpr bare)
  · rw [← markedDoubled]
    exact .marked

theorem takeQuotedSplit {body n rest : List Char} (taken : takeQuoted? body = some (n, rest)) :
    body = doubleMarks n ++ '\x27' :: rest ∧ rest.head? ≠ some '\x27' := by
  fun_induction takeQuoted? body generalizing n with
  | case1 => contradiction
  | case2 body ih =>
    obtain ⟨p, inner, same⟩ := Option.map_eq_some_iff.mp taken
    cases same
    obtain ⟨split, closed⟩ := ih inner
    exact ⟨by simp [doubleMarks, split], closed⟩
  | case3 body single =>
    cases taken
    refine ⟨rfl, fun mark => ?_⟩
    obtain ⟨tail, rfl⟩ := List.head?_eq_some_iff.mp mark
    exact single tail rfl
  | case4 c body _ other ih =>
    obtain ⟨p, inner, same⟩ := Option.map_eq_some_iff.mp taken
    cases same
    obtain ⟨split, closed⟩ := ih inner
    have doubled : doubleMarks (c :: p.1) = c :: doubleMarks p.1 := doubleMarks.eq_3 _ _ other
    exact ⟨by rw [doubled, split, List.cons_append], closed⟩

theorem takeMarked {n rest : List Char} (closed : rest.head? ≠ some '\x27') :
    take? (marked n ++ rest) = some (n, rest) := by
  rw [markedDoubled]
  simpa [take?] using takeQuotedMarks n closed

theorem takeExact {input n rest : List Char} :
    take? input = some (n, rest) ↔ BareToken n rest input ∨ MarkedToken n rest input := by
  constructor
  · intro taken
    unfold take? at taken
    split at taken
    · contradiction
    · rename_i body
      obtain ⟨split, closed⟩ := takeQuotedSplit taken
      exact .inr ⟨by simp [markedDoubled, split], closed⟩
    · rename_i c tail _
      split at taken <;> try contradiction
      rename_i starts
      cases Option.some.inj taken
      refine .inl ⟨⟨⟨c, ?_, starts⟩, fun d mem => List.mem_takeWhile_imp mem⟩,
        List.takeWhile_append_dropWhile.symm, fun d first => ?_⟩
      · rw [List.takeWhile_cons, if_pos (startsContinues starts)]
        rfl
      · have stop := List.head?_dropWhile_not continuesBare (c :: tail)
        rw [first] at stop
        simpa using stop
  · rintro (⟨word, rfl, stops⟩ | ⟨rfl, closed⟩)
    · exact takeBare (wordBare.mp word) stops
    · exact takeMarked closed

theorem encodeExact {n rest : List Char} :
    take? (encode n ++ rest) = some (n, rest) ↔ ∀ c ∈ rest.head?, goesOn n c = false := by
  rw [takeExact]
  by_cases bare : isBare n = true
  · have word := wordBare.mpr bare
    obtain ⟨c, first, starts⟩ := word.starts
    have unmarked : n ++ rest ≠ marked n ++ rest := fun same => by
      have := congrArg List.head? same
      rw [List.head?_append, first] at this
      exact startsNoMark starts (Option.some.inj this)
    have same (c : Char) : goesOn n c = continuesBare c := by simp [goesOn, bare]
    simp only [encode, if_pos bare, same]
    constructor
    · rintro (⟨_, _, stops⟩ | ⟨whole, _⟩)
      · exact stops
      · exact absurd whole unmarked
    · exact fun stops => .inl ⟨word, rfl, stops⟩
  · rw [encode, if_neg bare, ← markedDoubled]
    have other (c : Char) : goesOn n c = false ↔ c ≠ '\x27' := by simp [goesOn, bare]
    simp only [other]
    constructor
    · rintro (⟨word, _, _⟩ | ⟨_, closed⟩)
      · exact absurd (wordBare.mp word) bare
      · rintro c first rfl
        exact closed first
    · intro stops
      exact .inr ⟨rfl, fun mark => stops _ mark rfl⟩

theorem tokensExact :
    (∀ input n rest : List Char,
      take? input = some (n, rest) ↔ BareToken n rest input ∨ MarkedToken n rest input) ∧
    (∀ name : String, unquote? (quote name) = some name) ∧ Function.Injective quote ∧
    ∀ (name : String) (rest : List Char),
      take? ((quote name).toList ++ rest) = some (name.toList, rest) ↔
        ∀ c ∈ rest.head?, goesOn name.toList c = false := by
  refine ⟨fun _ _ _ => takeExact, fun name => ?_, fun a b same => ?_, fun name rest => ?_⟩
  · simp [unquote?, quote, decodeEncode]
  · exact String.toList_inj.mp (encodeInjective (String.ofList_injective same))
  · rw [quote, String.toList_ofList]
    exact encodeExact

example : take? "'it''s' = 1".toList = some ("it's".toList, " = 1".toList) := by decide

theorem decodeExact {s n : List Char} : decode? s = some n ↔ Spelling n s := by
  have only : decode? s = some n ↔ take? s = some (n, []) := by
    unfold decode?
    split <;> simp_all
  rw [only, takeExact]
  constructor
  · rintro (⟨word, rfl, _⟩ | ⟨rfl, _⟩)
    · rw [List.append_nil]
      exact .bare word
    · rw [List.append_nil]
      exact .marked
  · rintro (word | _)
    · exact .inl ⟨word, (List.append_nil _).symm, by simp⟩
    · exact .inr ⟨(List.append_nil _).symm, by simp⟩

theorem spelledTaken {n token rest : List Char} (spelled : Spelling n token) (stops : Stops rest) :
    take? (token ++ rest) = some (n, rest) := by
  cases spelled with
  | bare word => exact takeBare (wordBare.mp word) fun c first => (stops c first).2
  | marked => exact takeMarked fun mark => (stops _ mark).1 rfl

theorem takenSpelled {s n rest : List Char} (taken : take? s = some (n, rest)) :
    ∃ token, Spelling n token ∧ s = token ++ rest := by
  rcases takeExact.mp taken with ⟨word, whole, _⟩ | ⟨whole, _⟩
  · exact ⟨n, .bare word, whole⟩
  · exact ⟨marked n, .marked, whole⟩

theorem decodePairExact {s table column : List Char} : decodePair? s = some (table, column) ↔
    ∃ left right, Spelling table left ∧ Spelling column right ∧ s = left ++ '.' :: right := by
  constructor
  · intro found
    unfold decodePair? at found
    split at found <;> try contradiction
    rename_i first rest taken
    obtain ⟨second, decoded, same⟩ := Option.map_eq_some_iff.mp found
    cases same
    obtain ⟨token, spelled, whole⟩ := takenSpelled taken
    exact ⟨token, rest, spelled, decodeExact.mp decoded, whole⟩
  · rintro ⟨left, right, first, second, rfl⟩
    simp [decodePair?, spelledTaken first (stopsDot right), decodeExact.mpr second]

theorem splitQualifiedDecodes {s table column : String} : splitQualified? s = some (table, column) ↔
    decodePair? s.toList = some (table.toList, column.toList) := by
  rw [splitQualified?, Option.map_eq_some_iff]
  constructor
  · rintro ⟨p, found, same⟩
    cases same
    simpa using found
  · intro found
    exact ⟨_, found, by simp⟩

theorem pairsExact :
    (∀ s table column : String, splitQualified? s = some (table, column) ↔
      ∃ left right, Spelling table.toList left ∧ Spelling column.toList right ∧
        s.toList = left ++ '.' :: right) ∧
    (∀ table column : String, splitQualified? (qualified table column) = some (table, column)) ∧
    Function.Injective fun p : String × String => qualified p.1 p.2 := by
  have back (table column : String) :
      splitQualified? (qualified table column) = some (table, column) := by
    rw [splitQualifiedDecodes, qualified, String.toList_ofList]
    exact decodePairExact.mpr ⟨_, _, encodeSpelling _, encodeSpelling _, rfl⟩
  refine ⟨fun s table column => splitQualifiedDecodes.trans decodePairExact, back, fun p q same => ?_⟩
  exact Option.some.inj ((back p.1 p.2).symm.trans ((congrArg splitQualified? same).trans (back q.1 q.2)))

example : splitQualified? "'a.b'.'''.'''" = some ("a.b", "'.'") := by decide

end Tabular.Name

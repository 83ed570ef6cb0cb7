import Tabular.Definition.Line
import Tabular.Proofs.Text.Lines

/-! Name tokens read back: whatever follows a token, as long as it does not go on with it. Tokens hold
no character that the name does not hold, apart from marks, and have no blanks around them. -/
namespace Tabular.Name
open Unicode Text

theorem rangesApart {as bs : List (Nat × Nat)} (apart : ∀ a ∈ as, ∀ b ∈ bs, a.2 < b.1 ∨ b.2 < a.1)
    {c : Char} (inside : inRanges as c = true) : inRanges bs c = false := by
  simp only [inRanges, List.any_eq_true, Bool.and_eq_true, decide_eq_true_eq] at inside
  obtain ⟨a, ha, low, high⟩ := inside
  simp only [inRanges, List.any_eq_false, Bool.and_eq_true, decide_eq_true_eq, not_and, Nat.not_le]
  intro b hb
  have := apart a ha b hb
  omega

theorem asciiFilled {c : Char} (ascii : c.isAlpha = true ∨ c.isDigit = true) : isBlank c = false := by
  have inside : inRanges [(65, 90), (97, 122), (48, 57)] c = true := by
    change (decide (c.val ≥ 'A'.val ∧ c.val ≤ 'Z'.val) ||
        (decide (c.val ≥ 'a'.val) && decide (c.val ≤ 'z'.val))) = true ∨
      (decide (c.val ≥ '0'.val) && decide (c.val ≤ '9'.val)) = true at ascii
    simp only [Bool.or_eq_true, Bool.and_eq_true, decide_eq_true_eq, ge_iff_le,
      UInt32.le_iff_toNat_le] at ascii
    change ((65 ≤ c.toNat ∧ c.toNat ≤ 90) ∨ (97 ≤ c.toNat ∧ c.toNat ≤ 122)) ∨
      (48 ≤ c.toNat ∧ c.toNat ≤ 57) at ascii
    simpa [inRanges, or_assoc] using ascii
  exact rangesApart (by decide) inside

theorem alphanumericFilled {c : Char} (h : isAlphanumeric c = true) : isBlank c = false := by
  simp only [isAlphanumeric, isAlphabetic, isNumeric, Bool.or_eq_true] at h
  split at h
  · exact asciiFilled h
  · rcases h with h | h
    · exact rangesApart (by decide +kernel) h
    · exact rangesApart (by decide +kernel) h

theorem continuesFilled {c : Char} (h : continuesBare c = true) : isBlank c = false := by
  simp only [continuesBare, Bool.or_eq_true, decide_eq_true_eq] at h
  rcases h with h | rfl
  · exact alphanumericFilled h
  · decide

theorem startsContinues {c : Char} (h : startsBare c = true) : continuesBare c = true := by
  simp only [startsBare, continuesBare, isAlphanumeric, Bool.or_eq_true] at h ⊢
  exact h.imp_left .inl

def Stops (rest : List Char) : Prop := ∀ c ∈ rest.head?, c ≠ '\x27' ∧ continuesBare c = false

theorem stopsSpace (rest : List Char) : Stops (' ' :: rest) := fun c first => by
  cases Option.some.inj first
  decide

theorem stopsDot (rest : List Char) : Stops ('.' :: rest) := fun c first => by
  cases Option.some.inj first
  decide

theorem bareContinues {n : List Char} (bare : isBare n = true) : ∀ c ∈ n, continuesBare c = true := by
  cases n with
  | nil => contradiction
  | cons c rest =>
    simp only [isBare, Bool.and_eq_true, List.all_eq_true] at bare
    simpa using ⟨startsContinues bare.1, bare.2⟩

theorem takeQuotedMarks {rest : List Char} (n : List Char) (closed : rest.head? ≠ some '\x27') :
    takeQuoted? (doubleMarks n ++ '\x27' :: rest) = some (n, rest) := by
  fun_induction doubleMarks n with
  | case1 =>
    cases rest with
    | nil => rfl
    | cons c rest =>
      have other : c ≠ '\x27' := by simpa using closed
      simp [takeQuoted?, other]
  | case2 n ih => simp [takeQuoted?, ih]
  | case3 c n other ih =>
    rw [List.cons_append, takeQuoted?.eq_4 _ _ (by grind) (by grind), ih, Option.map_some]

theorem startsNoMark {c : Char} (starts : startsBare c = true) : c ≠ '\x27' := by
  rintro rfl
  revert starts
  decide

theorem takeStarts {c : Char} (starts : startsBare c = true) (rest : List Char) :
    take? (c :: rest) =
      some ((c :: rest).takeWhile continuesBare, (c :: rest).dropWhile continuesBare) := by
  rw [take?.eq_3 _ _ (startsNoMark starts), if_pos starts]

theorem takeBare {n rest : List Char} (bare : isBare n = true)
    (stops : ∀ c ∈ rest.head?, continuesBare c = false) : take? (n ++ rest) = some (n, rest) := by
  have all := bareContinues bare
  cases n with
  | nil => contradiction
  | cons c n =>
    have starts : startsBare c = true := by
      simp only [isBare, Bool.and_eq_true] at bare
      exact bare.1
    have whole : ((c :: n) ++ rest).takeWhile continuesBare = c :: n ∧
        ((c :: n) ++ rest).dropWhile continuesBare = rest := by
      rw [List.takeWhile_append_of_pos all, List.dropWhile_append_of_pos all]
      cases rest with
      | nil => simp
      | cons d rest => simp [stops d rfl]
    rw [List.cons_append, takeStarts starts, ← List.cons_append, whole.1, whole.2]

theorem takeEncode {rest : List Char} (n : List Char) (stops : Stops rest) :
    take? (encode n ++ rest) = some (n, rest) := by
  unfold encode
  split
  · rename_i bare
    exact takeBare bare fun c first => (stops c first).2
  · have closed : rest.head? ≠ some '\x27' := fun mark => (stops _ mark).1 rfl
    simpa [take?] using takeQuotedMarks n closed

theorem decodeEncode (n : List Char) : decode? (encode n) = some n := by
  have stops : Stops [] := by simp [Stops]
  have found := takeEncode n stops
  rw [List.append_nil] at found
  simp [decode?, found]

theorem decodePairEncode (table column : List Char) :
    decodePair? (encodePair table column) = some (table, column) := by
  simp [decodePair?, encodePair, takeEncode table (stopsDot _), decodeEncode]

theorem encodeInjective {a b : List Char} (same : encode a = encode b) : a = b :=
  Option.some.inj ((decodeEncode a).symm.trans ((congrArg decode? same).trans (decodeEncode b)))

theorem encodePairInjective {a b c d : List Char} (same : encodePair a b = encodePair c d) :
    a = c ∧ b = d := by
  have h := (decodePairEncode a b).symm.trans ((congrArg decodePair? same).trans (decodePairEncode c d))
  simpa using h

theorem doubleMarksMem {n : List Char} {c : Char} (mem : c ∈ doubleMarks n) : c ∈ n := by
  fun_induction doubleMarks n <;> simp_all <;> grind

theorem encodeMem {n : List Char} {c : Char} (mem : c ∈ encode n) : c ∈ n ∨ c = '\x27' := by
  unfold encode at mem
  split at mem
  · exact .inl mem
  · simp only [List.mem_append, List.mem_cons, List.not_mem_nil, or_false] at mem
    rcases mem with (rfl | mem) | rfl
    · exact .inr rfl
    · exact .inl (doubleMarksMem mem)
    · exact .inr rfl

theorem encodeFilled (n : List Char) :
    encode n ≠ [] ∧ StartsFilled (encode n) ∧ EndsFilled (encode n) := by
  unfold encode
  split
  · rename_i bare
    have all := fun c mem => continuesFilled (bareContinues bare c mem)
    exact ⟨by rintro rfl; contradiction, fun c first => all c (List.mem_of_mem_head? first),
      fun c last => all c (List.mem_of_getLast? last)⟩
  · refine ⟨by simp, fun c first => ?_, fun c last => ?_⟩
    · cases Option.some.inj first
      decide
    · simp only [List.cons_append, List.getLast?_cons, List.getLast?_append] at last
      simp at last
      subst last
      decide

end Tabular.Name

import Mathlib.Data.List.Forall2
import Tabular.Definition.Reading
import Tabular.Proofs.Text.Lines

/-! What a reading that succeeds has found: the word and the name in the head, and what the rest of the section
was read as. -/
namespace Tabular.Definition
open Text

theorem bindOk {ε α β : Type} {x : Except ε α} {g : α → Except ε β} {v : β} :
    (x >>= g) = .ok v ↔ ∃ u, x = .ok u ∧ g u = .ok v := by
  cases x with
  | error fault => simp [bind, Except.bind]
  | ok u => simp [bind, Except.bind]

theorem bindError {ε α β : Type} {x : Except ε α} {g : α → Except ε β} {fault : ε} :
    (x >>= g) = .error fault ↔ x = .error fault ∨ ∃ v, x = .ok v ∧ g v = .error fault := by
  cases x with
  | error other => simp [bind, Except.bind]
  | ok v => simp [bind, Except.bind]

theorem pureOk {ε α : Type} {u v : α} : (pure u : Except ε α) = .ok v ↔ u = v := by
  simp [pure, Except.pure]

theorem mapMOk {ε α β : Type} {g : α → Except ε β} {xs : List α} {ys : List β} :
    xs.mapM g = .ok ys ↔ List.Forall₂ (fun x y => g x = .ok y) xs ys := by
  induction xs generalizing ys with
  | nil => rw [List.mapM_nil, pureOk, List.forall₂_nil_left_iff, eq_comm]
  | cons x xs ih =>
    simp only [List.mapM_cons, bindOk, pureOk, ih, List.forall₂_cons_left_iff]
    constructor
    · rintro ⟨y, first, ys, rest, rfl⟩
      exact ⟨y, ys, first, rest, rfl⟩
    · rintro ⟨y, ys, first, rest, rfl⟩
      exact ⟨y, first, ys, rest, rfl⟩

/-- The head has the word, a space and a token of the name, and goes on with the tail. -/
def Introduces (word : String) (text : List Char) (name : String) (tail : List Char) : Prop :=
  ∃ rest, text = word.toList ++ ' ' :: rest ∧ Name.take? rest = some (name.toList, tail)

theorem readNameOk {l : SourceLine} {s : List Char} {n : String × List Char} :
    readName l s = .ok n ↔ Name.take? s = some (n.1.toList, n.2) := by
  unfold readName
  split
  · rename_i name rest taken
    rw [taken, Except.ok.injEq, Option.some.injEq, Prod.ext_iff, Prod.ext_iff, ← String.toList_inj,
      String.toList_ofList]
  · rename_i nothing
    simp [nothing]

theorem splitWordText {text : List Char} {word : String} (isWord : (splitWord text).1 = word.toList) :
    text = word.toList ∧ (splitWord text).2 = [] ∨ text = word.toList ++ ' ' :: (splitWord text).2 := by
  unfold splitWord at *
  cases found : splitOnce? [' '] text with
  | none =>
    simp only [found, Option.getD_none] at isWord ⊢
    exact .inl ⟨isWord, trivial⟩
  | some p =>
    simp only [found, Option.getD_some] at isWord ⊢
    rw [← isWord]
    exact .inr (by simpa using splitOnceSplit found)

theorem headOk {text : List Char} {word : String} {l : SourceLine} {n : String × List Char}
    (isWord : (splitWord text).1 = word.toList) (done : readName l (splitWord text).2 = .ok n) :
    Introduces word text n.1 n.2 := by
  have taken := readNameOk.mp done
  rcases splitWordText isWord with ⟨_, none⟩ | whole
  · rw [none] at taken
    contradiction
  · exact ⟨_, whole, taken⟩

theorem objectOk {β γ : Type} {text : List Char} {word : String} {l : SourceLine}
    {body : String × List Char → Except ReadFault β} {mk : String × List Char → β → γ} {v : γ}
    (isWord : (splitWord text).1 = word.toList)
    (done : (do
      let n ← readName l (splitWord text).2
      return mk n (← body n)) = .ok v) :
    ∃ name tail u, Introduces word text name tail ∧ body (name, tail) = .ok u ∧ mk (name, tail) u = v := by
  obtain ⟨n, first, done⟩ := bindOk.mp done
  obtain ⟨u, rest, same⟩ := bindOk.mp done
  exact ⟨n.1, n.2, u, headOk isWord first, rest, pureOk.mp same⟩

theorem formulaOk {s : Section} {rest : List Char} {e : String} (done : readFormula s rest = .ok e) :
    ∃ more, trimStart rest = '=' :: more ∧ e.toList =
      if trim more = [] then joinLines ((s.body.takeWhile fun l => s.head.depth + 2 ≤ l.depth).map
        (bodyLine (s.head.depth + 2)))
      else trim more := by
  unfold readFormula at done
  split at done <;> try contradiction
  rename_i more sign
  refine ⟨more, sign, ?_⟩
  split at done
  · rename_i empty
    cases done
    rw [if_pos empty, String.toList_ofList]
  · rename_i filled
    cases done
    rw [if_neg filled, String.toList_ofList]

inductive TablePartRead (s : Section) : TablePart → Prop
  | partition {name tail mode} (head : Introduces "partition" s.head.text name tail)
      (body : readLast "mode" (properties s) = .ok mode) : TablePartRead s (.partition mode)
  | column {name tail dataType} (head : Introduces "column" s.head.text name tail)
      (body : readLast "dataType" (properties s) = .ok dataType) : TablePartRead s (.column ⟨name, dataType⟩)
  | measure {name tail e} (head : Introduces "measure" s.head.text name tail)
      (body : readFormula s tail = .ok e) : TablePartRead s (.measure ⟨name, e⟩)
  | calculatedColumn {name tail e} (head : Introduces "calculatedColumn" s.head.text name tail)
      (body : readFormula s tail = .ok e) : TablePartRead s (.calculatedColumn ⟨name, e⟩)

theorem tablePartRead {s : Section} {p : TablePart} (done : readTablePart s = .ok p) : TablePartRead s p := by
  unfold readTablePart at done
  dsimp only at done
  split at done
  · obtain ⟨name, tail, mode, head, body, rfl⟩ := objectOk ‹_› done
    exact .partition head body
  split at done
  · obtain ⟨name, tail, dataType, head, body, rfl⟩ := objectOk ‹_› done
    exact .column head body
  split at done
  · obtain ⟨name, tail, e, head, body, rfl⟩ := objectOk ‹_› done
    exact .measure head body
  split at done
  · obtain ⟨name, tail, e, head, body, rfl⟩ := objectOk ‹_› done
    exact .calculatedColumn head body
  · contradiction

/-- Lines that name nothing to be kept: references of other kinds, and the settings of the whole model. -/
def settingWords : List String := ["ref", "model", "database", "expression"]

inductive ItemRead (s : Section) : Item → Prop
  | table {name tail t} (head : Introduces "table" s.head.text name tail)
      (body : readTable s name = .ok t) : ItemRead s (.table t)
  | measure {name tail e} (head : Introduces "measure" s.head.text name tail)
      (body : readFormula s tail = .ok e) : ItemRead s (.measure ⟨name, e⟩)
  | relationship {name tail r} (head : Introduces "relationship" s.head.text name tail)
      (body : readRelationship s name = .ok r) : ItemRead s (.relationship r)
  | hierarchy {name tail h} (head : Introduces "hierarchy" s.head.text name tail)
      (body : readHierarchy s name = .ok h) : ItemRead s (.hierarchy h)
  | role {name tail r} (head : Introduces "role" s.head.text name tail)
      (body : readRole s name = .ok r) : ItemRead s (.role r)
  | tableRef {name tail} (head : Introduces "ref table" s.head.text name tail) : ItemRead s (.tableRef name)
  | roleRef {name tail} (head : Introduces "ref role" s.head.text name tail) : ItemRead s (.roleRef name)
  | setting {word} (known : word ∈ settingWords) (head : (splitWord s.head.text).1 = word.toList) :
      ItemRead s .other

theorem refHead {word kind name : String} {text tail : List Char} (spelled : "ref " ++ kind = word)
    (isRef : (splitWord text).1 = "ref".toList) (target : Introduces kind (splitWord text).2 name tail) :
    Introduces word text name tail := by
  obtain ⟨rest, split, taken⟩ := target
  rcases splitWordText isRef with ⟨_, none⟩ | whole
  · simp [none] at split
  · refine ⟨rest, ?_, taken⟩
    rw [whole, split, ← spelled]
    simp

theorem refRead {s : Section} {item : Item} (isRef : (splitWord s.head.text).1 = "ref".toList)
    (done : readRef s (splitWord s.head.text).2 = .ok item) : ItemRead s item := by
  obtain ⟨n, first, done⟩ := bindOk.mp done
  split at done
  · cases pureOk.mp done
    exact .tableRef (refHead rfl isRef (headOk ‹_› first))
  split at done
  · cases pureOk.mp done
    exact .roleRef (refHead rfl isRef (headOk ‹_› first))
  · cases pureOk.mp done
    exact .setting (by simp [settingWords]) isRef

theorem itemRead {s : Section} {item : Item} (done : readItem s = .ok item) : ItemRead s item := by
  unfold readItem at done
  dsimp only at done
  split at done
  · obtain ⟨name, tail, t, head, body, rfl⟩ := objectOk ‹_› done
    exact .table head body
  split at done
  · obtain ⟨name, tail, e, head, body, rfl⟩ := objectOk ‹_› done
    exact .measure head body
  split at done
  · obtain ⟨name, tail, r, head, body, rfl⟩ := objectOk ‹_› done
    exact .relationship head body
  split at done
  · obtain ⟨name, tail, h, head, body, rfl⟩ := objectOk ‹_› done
    exact .hierarchy head body
  split at done
  · obtain ⟨name, tail, r, head, body, rfl⟩ := objectOk ‹_› done
    exact .role head body
  split at done
  · exact refRead ‹_› done
  split at done
  · rename_i setting
    cases done
    simp only [Bool.or_eq_true, decide_eq_true_eq] at setting
    rcases setting with (word | word) | word <;> exact .setting (by simp [settingWords]) word
  · contradiction

end Tabular.Definition

import Tabular.Proofs.Definition.Order
import Tabular.Proofs.Definition.Scan
import Tabular.Proofs.Definition.Result
import Tabular.Proofs.Definition.Section

/-! The lines that head an object. A text that can be read has one object for each of them, and none besides. -/
namespace Tabular.Definition
open Text Unicode

structure Block where
  head : List Char
  below : List (List Char)

/-- Every line that stands behind exactly that many tabs, with the lines down to the next one that is not
deeper. Blank lines have no depth. -/
def blocks (depth : Nat) : List (List Char) → List Block
  | [] => []
  | raw :: rest =>
    if filled raw && tabs raw == depth then
      ⟨raw, rest.takeWhile fun x => !filled x || depth < tabs x⟩ :: blocks depth rest
    else blocks depth rest

def startWord (text : List Char) : List Char := text.takeWhile fun c => !isBlank c

structure Block.Seen (depth : Nat) (b : Block) (s : Section) : Prop where
  depth : s.head.depth = depth
  text : s.head.text = wording b.head
  body : ∃ n, s.body = numberLines n b.below

theorem numberLinesRaw (n : Nat) (raw : List Char) (rest : List (List Char)) :
    numberLines n (raw :: rest) =
      if filled raw then ⟨n, tabs raw, wording raw⟩ :: numberLines (n + 1) rest
      else numberLines (n + 1) rest := by
  rw [numberLines, sourceLineRaw]
  split <;> simp_all

theorem numberLinesBelow (depth n : Nat) (raws : List (List Char)) :
    (numberLines n raws).takeWhile (fun l => decide (depth < l.depth)) =
      numberLines n (raws.takeWhile fun x => !filled x || depth < tabs x) := by
  induction raws generalizing n with
  | nil => rfl
  | cons raw raws ih =>
    rw [numberLinesRaw]
    by_cases h : filled raw = true
    · by_cases deep : depth < tabs raw
      · simp [h, deep, numberLinesRaw, ih]
      · simp [h, deep, numberLines]
    · simp [h, numberLinesRaw, ih]

theorem sectionsSeen (depth n : Nat) (raws : List (List Char)) :
    List.Forall₂ (Block.Seen depth) (blocks depth raws) (sections depth (numberLines n raws)) := by
  induction raws generalizing n with
  | nil => exact .nil
  | cons raw raws ih =>
    rw [numberLinesRaw, blocks]
    by_cases h : filled raw = true
    · by_cases here : tabs raw = depth
      · simp only [h, here, sections, numberLinesBelow, beq_self_eq_true, Bool.and_self, if_true]
        exact .cons ⟨rfl, rfl, n + 1, rfl⟩ (ih (n + 1))
      · simp only [h, here, sections, beq_iff_eq, Bool.true_and, if_true, if_false]
        exact ih (n + 1)
    · simp only [h, Bool.false_and]
      exact ih (n + 1)

theorem blocksHeads (depth : Nat) (p : List Char → Bool) (raws : List (List Char)) :
    ((blocks depth raws).filter fun b => p b.head).map (·.head) =
      raws.filter fun raw => filled raw && tabs raw == depth && p raw := by
  induction raws with
  | nil => rfl
  | cons raw raws ih =>
    rw [blocks]
    by_cases here : (filled raw && tabs raw == depth) = true
    · rw [if_pos here, List.filter_cons, List.filter_cons, here, Bool.true_and]
      split <;> simp [ih]
    · rw [if_neg here, ih, List.filter_cons_of_neg (by simp [here])]

theorem firstWordSeen {raw : List Char} (solid : startWord (wording raw) ≠ []) :
    firstWord raw = startWord (wording raw) := by
  obtain ⟨tail, split, blank⟩ := trimEndSplit raw
  have front : ∀ c ∈ (trimEnd raw).takeWhile isTab, isBlank c = true :=
    fun c mem => tabBlank (List.mem_takeWhile_imp mem)
  have kept : trimEnd raw = (trimEnd raw).takeWhile isTab ++ wording raw :=
    List.takeWhile_append_dropWhile.symm
  have starts : (wording raw ++ tail).dropWhile isBlank = wording raw ++ tail := by
    cases text : wording raw with
    | nil => rw [text] at solid; contradiction
    | cons c rest =>
      have filled : isBlank c = false := by
        cases blank : isBlank c
        · rfl
        · simp [startWord, text, blank] at solid
      simp [filled]
  conv => lhs; rw [split, kept, List.append_assoc]
  rw [firstWord, List.dropWhile_append_of_pos front, starts, startWord]
  exact takeWhileStop fun c first => by simp [blank c (List.mem_of_mem_head? first)]

def Block.opensWith (word : String) (b : Block) : Bool := firstWord b.head == word.toList

def headers (depth : Nat) (word : String) (raws : List (List Char)) : List Block :=
  (blocks depth raws).filter (·.opensWith word)

def headed (depth : Nat) (word : String) (raw : List Char) : Bool :=
  filled raw && tabs raw == depth && firstWord raw == word.toList

section Gather
variable {β γ : Type} {f : Section → Except ReadFault β} {words : β → List String}

def Worded (f : Section → Except ReadFault β) (words : β → List String) : Prop :=
  ∀ s x, f s = .ok x → ∃ word ∈ words x, IsWord word ∧ startWord s.head.text = word.toList

theorem commentWord {s : Section} (comment : s.head.isComment = true) :
    ∃ rest, startWord s.head.text = '/' :: rest := by
  obtain ⟨rest, text⟩ := List.isPrefixOf_iff_prefix.mp comment
  rw [← text]
  exact ⟨_, rfl⟩

structure Picks (words : β → List String) (w : String) (pick : β → Option γ) : Prop where
  only : ∀ x z, pick x = some z → words x = [w]
  all : ∀ x, w ∈ words x → pick x ≠ none
  isWord : IsWord w

theorem pickedBlocks {depth : Nat} {bs : List Block} {ss : List Section}
    (seen : List.Forall₂ (Block.Seen depth) bs ss) (worded : Worded f words) {w : String} {pick : β → Option γ}
    (picks : Picks words w pick) {xs : List β}
    (done : (ss.filter fun s => !s.head.isComment).mapM f = .ok xs) :
    List.Forall₂ (fun b z => ∃ s x, b.Seen depth s ∧ f s = .ok x ∧ pick x = some z)
      (bs.filter (·.opensWith w)) (xs.filterMap pick) := by
  induction seen generalizing xs with
  | nil =>
    cases done
    exact .nil
  | @cons b s bs ss first rest ih =>
    have starts : startWord s.head.text ≠ [] → (b.opensWith w = true ↔ startWord s.head.text = w.toList) := by
      rw [first.text]
      intro solid
      rw [Block.opensWith, firstWordSeen solid, beq_iff_eq]
    by_cases comment : s.head.isComment = true
    · obtain ⟨more, start⟩ := commentWord comment
      -- the head starts with a slash, and no word does
      have other : ¬ b.opensWith w = true := by
        rw [starts (by simp [start]), start]
        intro same
        exact (letterPlain (picks.isWord.2 '/' (by simp [← same]))).2.2.1 rfl
      rw [List.filter_cons_of_neg (by simp [comment])] at done
      rw [List.filter_cons_of_neg other]
      exact ih done
    · rw [List.filter_cons_of_pos (by simp [comment])] at done
      obtain ⟨x, ys, read, later, rfl⟩ := List.forall₂_cons_left_iff.mp (mapMOk.mp done)
      obtain ⟨word, known, isWord, start⟩ := worded s x read
      have same : b.opensWith w = true ↔ word = w := by
        rw [starts (start ▸ isWord.1), start, String.toList_inj]
      cases picked : pick x with
      | none =>
        have other : ¬ b.opensWith w = true := fun here =>
          picks.all x (same.mp here ▸ known) picked
        rw [List.filter_cons_of_neg other, List.filterMap_cons_none picked]
        exact ih (mapMOk.mpr later)
      | some z =>
        have here : b.opensWith w = true := by
          rw [picks.only x z picked, List.mem_singleton] at known
          exact same.mpr known
        rw [List.filter_cons_of_pos here, List.filterMap_cons_some picked]
        exact .cons ⟨s, x, first, read, picked⟩ (ih (mapMOk.mpr later))

end Gather

theorem headersLines (depth : Nat) (word : String) (raws : List (List Char)) :
    (headers depth word raws).map (·.head) = raws.filter (headed depth word) :=
  blocksHeads depth (fun raw => firstWord raw == word.toList) raws

theorem isWordStart {w : String} (isWord : IsWord w) :
    startWord w.toList = w.toList ∧ ∀ more, startWord (w.toList ++ ' ' :: more) = w.toList := by
  have all : ∀ c ∈ w.toList, (!isBlank c) = true := fun c mem => by simp [(letterPlain (isWord.2 c mem)).1]
  have space : isBlank ' ' = true := by decide
  refine ⟨List.takeWhile_eq_self_iff.mpr all, fun more => ?_⟩
  rw [startWord, List.takeWhile_append_of_pos all, List.takeWhile_cons_of_neg (by simp [space]), List.append_nil]

theorem introducedWord {word name : String} {text tail : List Char} (isWord : IsWord word)
    (head : Introduces word text name tail) : ∃ w ∈ [word], IsWord w ∧ startWord text = w.toList := by
  obtain ⟨rest, rfl, _⟩ := head
  exact ⟨word, List.mem_singleton_self word, isWord, (isWordStart isWord).2 rest⟩

def Item.words : Item → List String
  | .table _ => ["table"]
  | .measure _ => ["measure"]
  | .relationship _ => ["relationship"]
  | .hierarchy _ => ["hierarchy"]
  | .role _ => ["role"]
  | .tableRef _ => ["ref"]
  | .roleRef _ => ["ref"]
  | .other => settingWords

def TablePart.words : TablePart → List String
  | .partition _ => ["partition"]
  | .column _ => ["column"]
  | .measure _ => ["measure"]
  | .calculatedColumn _ => ["calculatedColumn"]

theorem itemsWorded : Worded readItem Item.words := by
  have known : ∀ w ∈ ["table", "measure", "relationship", "hierarchy", "role"] ++ settingWords, IsWord w := by
    decide
  have ref (kind : String) {name : String} {text tail : List Char}
      (head : Introduces ("ref " ++ kind) text name tail) :
      ∃ w ∈ ["ref"], IsWord w ∧ startWord text = w.toList := by
    obtain ⟨rest, rfl, _⟩ := head
    have isRef : IsWord "ref" := known _ (by simp [settingWords])
    refine ⟨"ref", List.mem_singleton_self _, isRef, ?_⟩
    simpa using (isWordStart isRef).2 (kind.toList ++ ' ' :: rest)
  intro s item done
  cases itemRead done with
  | table head => exact introducedWord (known _ (by simp)) head
  | measure head => exact introducedWord (known _ (by simp)) head
  | relationship head => exact introducedWord (known _ (by simp)) head
  | hierarchy head => exact introducedWord (known _ (by simp)) head
  | role head => exact introducedWord (known _ (by simp)) head
  | tableRef head => exact ref "table" head
  | roleRef head => exact ref "role" head
  | @setting word setting head =>
    have isWord := known word (List.mem_append_right _ setting)
    refine ⟨word, setting, isWord, ?_⟩
    rcases splitWordText head with ⟨whole, _⟩ | whole <;> rw [whole]
    · exact (isWordStart isWord).1
    · exact (isWordStart isWord).2 _

theorem tablePartsWorded : Worded readTablePart TablePart.words := by
  have known : ∀ w ∈ ["partition", "column", "measure", "calculatedColumn"], IsWord w := by decide
  intro s p done
  cases tablePartRead done with
  | partition head => exact introducedWord (known _ (by simp)) head
  | column head => exact introducedWord (known _ (by simp)) head
  | measure head => exact introducedWord (known _ (by simp)) head
  | calculatedColumn head => exact introducedWord (known _ (by simp)) head

end Tabular.Definition

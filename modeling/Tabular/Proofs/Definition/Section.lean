import Tabular.Definition.Writing
import Tabular.Proofs.Definition.Scan
import Tabular.Proofs.Expression.NormalForm
import Tabular.Proofs.Name.Token

/-! A head, and the lines that belong to it: properties one level deeper, and the body of a formula two
levels deeper. What is read of a formula is its normal form, except that a formula on the line of its
head loses the blanks at its start. -/
namespace Tabular.Definition
open Text Unicode Name

def IsWord (w : String) : Prop := w.toList ≠ [] ∧ ∀ c ∈ w.toList, c.isAlpha = true ∨ c = ':'
instance (w) : Decidable (IsWord w) := @instDecidableAnd _ _ _ (List.decidableBAll _ _)

theorem letterPlain {c : Char} (letter : c.isAlpha = true ∨ c = ':') :
    isBlank c = false ∧ c ≠ ' ' ∧ c ≠ '/' ∧ c ≠ '\n' := by
  rcases letter with letter | rfl
  · have filled := asciiFilled (.inl letter)
    refine ⟨filled, ?_, ?_, ?_⟩ <;> rintro rfl <;> revert letter <;> decide
  · decide

theorem wordFlat {w : String} (isWord : IsWord w) : OneLine w.toList :=
  fun feed => (letterPlain (isWord.2 _ feed)).2.2.2 rfl

theorem splitWordAt {w : String} (isWord : IsWord w) (rest : List Char) :
    splitWord (w.toList ++ ' ' :: rest) = (w.toList, rest) := by
  have absent : ' ' ∉ w.toList := fun space => (letterPlain (isWord.2 _ space)).2.1 rfl
  have found : splitOnce? [' '] (w.toList ++ [' '] ++ rest) = some (w.toList, rest) := splitOnceAt absent
  rw [List.append_assoc] at found
  simp only [List.cons_append, List.nil_append] at found
  simp [splitWord, found]

section Reads
variable {α : Type} {depth : Nat} {f : Section → Except ReadFault α}

theorem Reads.headed {w : String} {l : Line} {rest : List Char} {body : List Line} {x : α}
    (isWord : IsWord w) (atDepth : l.depth = depth) (text : l.text.toList = w.toList ++ ' ' :: rest)
    (ends : LineText rest) (flat : Flat body) (below : Below depth body)
    (read : ∀ n, f ⟨⟨n, depth, w.toList ++ ' ' :: rest⟩, scan (n + 1) body⟩ = .ok x) :
    Reads depth f (l :: body) [x] := by
  obtain ⟨c, letters, first⟩ := List.exists_cons_of_ne_nil isWord.1
  have letter := letterPlain (isWord.2 c (by simp [first]))
  have lineText : LineText l.text.toList := by
    have front : OneLine (w.toList ++ [' ']) := by
      simpa [OneLine] using wordFlat isWord
    rw [text]
    simpa using LineText.append front ends
  have seen : l.Seen := ⟨c, by simp [text, first], letter.1⟩
  have kept : trimEnd l.text.toList = w.toList ++ ' ' :: rest := by
    rw [trimEndFixed lineText.ends, text]
  have deeper : ∀ l ∈ body, l = Line.blank ∨ depth ≤ l.depth :=
    fun l mem => (below l mem).imp_right Nat.le_of_lt
  refine ⟨List.forall_mem_cons.mpr ⟨lineText.flat, flat⟩,
    List.forall_mem_cons.mpr ⟨.inr (Nat.le_of_eq atDepth.symm), deeper⟩, fun n => ?_, fun n => ?_⟩
  · rw [seen.scanned, Opens]
    simp [atDepth]
  · have deep := below.scanned (n + 1)
    have whole : (scan (n + 1) body).takeWhile (fun x => decide (depth < x.depth)) =
        scan (n + 1) body := List.takeWhile_eq_self_iff.mpr fun s mem => by simpa using deep s mem
    have noComment : SourceLine.isComment ⟨n, depth, w.toList ++ ' ' :: rest⟩ = false := by
      simp [SourceLine.isComment, List.isPrefixOf, first, Ne.symm letter.2.2.1]
    rw [seen.scanned, kept, atDepth]
    simp only [objects, sections, if_true, whole, sectionsDeep deep, List.filter_cons, noComment,
      Bool.not_false, List.filter_nil, List.mapM_cons, read, List.mapM_nil]
    rfl

end Reads

theorem readNameEncode {name : String} {rest : List Char} (l : SourceLine) (stops : Stops rest) :
    readName l (encode name.toList ++ rest) = .ok (name, rest) := by
  simp [readName, takeEncode _ stops]

theorem readNameWhole {name : String} (l : SourceLine) :
    readName l (encode name.toList) = .ok (name, []) := by
  have stops : Stops [] := by simp [Stops]
  have found : readName l (encode name.toList ++ []) = .ok (name, []) := readNameEncode l stops
  rwa [List.append_nil] at found

theorem encodeLine {n : String} (flat : OneLine n.toList) : LineText (encode n.toList) := by
  have ends := encodeFilled n.toList
  refine ⟨ends.1, ends.2.2, fun feed => ?_⟩
  rcases encodeMem feed with mem | mark
  · exact flat mem
  · revert mark; decide

theorem quotedText {w front name : String} (split : front.toList = w.toList ++ [' ']) :
    (front ++ quote name).toList = w.toList ++ ' ' :: encode name.toList := by
  simp [quote, split]

theorem Reads.named {α : Type} {depth : Nat} {f : Section → Except ReadFault α} {front name : String}
    {body : List Line} {x : α} (w : String) (isWord : IsWord w) (split : front.toList = w.toList ++ [' '])
    (line : OneLine name.toList) (flat : Flat body) (below : Below depth body)
    (read : ∀ n, f ⟨⟨n, depth, w.toList ++ ' ' :: encode name.toList⟩, scan (n + 1) body⟩ = .ok x) :
    Reads depth f (⟨depth, front ++ quote name⟩ :: body) [x] :=
  .headed isWord rfl (quotedText split) (encodeLine line) flat below read

def formulaTail (e : String) : List Char :=
  match Expression.normalLines e.toList with
  | [line] => ' ' :: '=' :: ' ' :: line
  | _ => [' ', '=']

def formulaBody (depth : Nat) (e : String) : List Line :=
  match Expression.normalLines e.toList with
  | [_] => []
  | body => body.map fun l => ⟨depth + 2, String.ofList l⟩

theorem formulaLines (depth : Nat) (header e : String) : formula depth header e =
    ⟨depth, header ++ String.ofList (formulaTail e)⟩ :: formulaBody depth e := by
  unfold formula formulaTail formulaBody
  split <;> simp_all [← String.toList_inj]

/-- The normal form of a formula, without blanks in front if it has one line. -/
def readBack (s : String) : String :=
  if '\n' ∈ s.toList then s else String.ofList (trimStart s.toList)

theorem formulaTailText (e : String) : LineText (formulaTail e) := by
  unfold formulaTail
  split
  · rename_i line single
    have lineText : LineText line := Expression.normalLinesText (by rw [single]; simp)
    exact LineText.append (s := [' ', '=', ' ']) (by simp [OneLine]) lineText
  · exact ⟨by simp, by simp [EndsFilled]; decide, by simp [OneLine]⟩

theorem formulaBodyFlat (depth : Nat) (e : String) : Flat (formulaBody depth e) := by
  have each : ∀ l ∈ Expression.normalLines e.toList, OneLine l :=
    fun l mem => (Expression.normalLinesText mem).flat
  unfold formulaBody
  split
  · simp [Flat]
  · simpa [Flat] using each

theorem formulaBodyDeep {depth : Nat} {e : String} {l : Line} (member : l ∈ formulaBody depth e) :
    l.depth = depth + 2 := by
  unfold formulaBody at member
  split at member
  · simp at member
  · obtain ⟨_, _, rfl⟩ := List.mem_map.mp member
    rfl

theorem formulaBodyBelow (depth : Nat) (e : String) : Below depth (formulaBody depth e) :=
  fun l member => .inr (by rw [formulaBodyDeep member]; omega)

theorem scanBody {ls : List (List Char)} (each : ∀ l ∈ ls, LineText l) (depth n : Nat) :
    (∀ s ∈ scan n (ls.map fun l => ⟨depth, String.ofList l⟩), depth ≤ s.depth) ∧
    (scan n (ls.map fun l => ⟨depth, String.ofList l⟩)).map (bodyLine depth) = ls := by
  induction ls generalizing n with
  | nil => simp [scan, numberLines]
  | cons l ls ih =>
    obtain ⟨head, rest⟩ := List.forall_mem_cons.mp each
    have found := sourceLineTabs (l := ⟨depth, String.ofList l⟩) n
      (by rw [String.toList_ofList, trimEndFixed head.ends]) head.filled
    have again := ih rest (n + 1)
    simp only [scan] at again
    have same : bodyLine depth ⟨n, depth + (l.takeWhile isTab).length, l.dropWhile isTab⟩ = l := by
      simp only [bodyLine, Nat.add_sub_cancel_left, tabsReplicate, List.takeWhile_append_dropWhile]
    simp only [scan, List.map_cons, numberLines, found, same, again.2, List.forall_mem_cons]
    exact ⟨⟨Nat.le_add_right .., again.1⟩, trivial⟩

theorem inlineRead {line : List Char} (h : LineText line) :
    trim (' ' :: line) = trimStart line ∧ trimStart line ≠ [] := by
  have blank : isBlank ' ' = true := by decide
  have start : trimStart (' ' :: line) = trimStart line := by simp [trimStart, blank]
  obtain ⟨suffix, split⟩ := List.dropWhile_suffix (l := line) isBlank
  have filled : trimStart line ≠ [] := by
    intro none
    have all := List.dropWhile_eq_nil_iff.mp none
    have last := h.ends _ (List.getLast?_eq_some_getLast h.filled)
    rw [all _ (List.getLast_mem h.filled)] at last
    contradiction
  refine ⟨?_, filled⟩
  rw [trim, start, trimEndFixed]
  intro c last
  apply h.ends c
  rw [← split, List.getLast?_append]
  change c ∈ (trimStart line).getLast?.or _
  rw [List.getLast?_eq_some_getLast filled] at last ⊢
  simpa using last

theorem readFormulaBack {s : Section} {e : String} {n : Nat} {more : List Line}
    (body : s.body = scan n (formulaBody s.head.depth e ++ more))
    (opens : ∀ k, Opens (s.head.depth + 1) (scan k more)) :
    readFormula s (formulaTail e) = .ok (readBack (Expression.normalize e)) := by
  have each : ∀ l ∈ Expression.normalLines e.toList, LineText l :=
    fun l => Expression.normalLinesText
  have stop (as : List SourceLine) (k : Nat) (deep : ∀ l ∈ as, s.head.depth + 2 ≤ l.depth) :
      (as ++ scan k more).takeWhile (fun l => decide (s.head.depth + 2 ≤ l.depth)) = as := by
    rw [takeWhileStop fun l first => ?_, List.takeWhile_eq_self_iff.mpr fun l mem => ?_]
    · simpa using deep l mem
    · have := opens k l first
      simp only [decide_eq_false_iff_not]
      omega
  unfold formulaTail
  unfold formulaBody at body
  split
  · rename_i line single
    have lineText := each line (by rw [single]; simp)
    obtain ⟨inline, filled⟩ := inlineRead lineText
    have flat : '\n' ∉ line := lineText.flat
    simp only [readFormula, readBack, Expression.normalize, Expression.normalChars, single,
      joinLines, String.toList_ofList, if_neg flat]
    have skip : trimStart (' ' :: '=' :: ' ' :: line) = '=' :: ' ' :: line := by
      simp [trimStart, show isBlank ' ' = true by decide, show isBlank '=' = false by decide]
    rw [skip]
    simp only [inline]
  · rename_i several
    have lined := scanBody each (s.head.depth + 2) n
    have skip : trimStart [' ', '='] = ['='] := by decide
    have joined : readBack (Expression.normalize e) = Expression.normalize e := by
      unfold readBack
      split
      · rfl
      · rename_i flat
        simp only [Expression.normalize, Expression.normalChars, String.toList_ofList] at flat ⊢
        cases h : Expression.normalLines e.toList with
        | nil => rfl
        | cons a rest =>
          cases rest with
          | nil => exact absurd h (several a)
          | cons b rest => exact absurd (Expression.joinFeed a b rest) (by rwa [h] at flat)
    have whole : s.body.takeWhile (fun l => decide (s.head.depth + 2 ≤ l.depth)) =
        scan n ((Expression.normalLines e.toList).map fun l => ⟨s.head.depth + 2, String.ofList l⟩) := by
      rw [body]
      split
      · rename_i line single
        exact absurd single (several line)
      · rw [scanAppend, stop _ _ lined.1]
    have noInline : trim ([] : List Char) = [] := rfl
    rw [joined, readFormula, skip]
    simp only [noInline, whole, lined.2]
    rfl

def Lettered (s : List Char) : Prop := ∃ c, s.head? = some c ∧ c.isAlpha = true
instance : DecidablePred Lettered
  | [] => isFalse (by simp [Lettered])
  | c :: _ => decidable_of_iff (c.isAlpha = true) (by simp [Lettered])

theorem Lettered.append {s : List Char} (h : Lettered s) (t : List Char) : Lettered (s ++ t) := by
  obtain ⟨c, first, letter⟩ := h
  obtain ⟨rest, rfl⟩ := List.head?_eq_some_iff.mp first
  exact ⟨c, rfl, letter⟩

structure Attached (depth : Nat) (ls : List Line) : Prop where
  flat : Flat ls
  deep : ∀ l ∈ ls, l.depth = depth + 1
  letter : ∀ l ∈ ls, Lettered l.text.toList

theorem Attached.seen {depth : Nat} {ls : List Line} (h : Attached depth ls) : ∀ l ∈ ls, l.Seen := by
  intro l mem
  obtain ⟨c, first, letter⟩ := h.letter l mem
  exact ⟨c, first, asciiFilled (.inl letter)⟩

theorem Attached.below {depth : Nat} {ls : List Line} (h : Attached depth ls) : Below depth ls :=
  fun l mem => .inr (by rw [h.deep l mem]; omega)

theorem Attached.opens {depth : Nat} {ls : List Line} (h : Attached depth ls) (n : Nat) :
    Opens (depth + 1) (scan n ls) := by
  cases ls with
  | nil => simp [Opens, scan, numberLines]
  | cons l ls =>
    rw [(h.seen l (by simp)).scanned]
    simp [Opens, h.deep l (by simp)]

theorem Attached.tail {depth : Nat} {l : Line} {ls : List Line} (h : Attached depth (l :: ls)) :
    Attached depth ls :=
  ⟨(List.forall_mem_cons.mp h.flat).2, (List.forall_mem_cons.mp h.deep).2,
    (List.forall_mem_cons.mp h.letter).2⟩

theorem Attached.nil {depth : Nat} : Attached depth [] := ⟨by simp [Flat], by simp, by simp⟩

theorem Attached.append {depth : Nat} {as bs : List Line} (left : Attached depth as)
    (right : Attached depth bs) : Attached depth (as ++ bs) :=
  ⟨List.forall_mem_append.mpr ⟨left.flat, right.flat⟩,
    List.forall_mem_append.mpr ⟨left.deep, right.deep⟩,
    List.forall_mem_append.mpr ⟨left.letter, right.letter⟩⟩

theorem Attached.line {depth : Nat} {text : String} (flat : OneLine text.toList)
    (letter : Lettered text.toList) : Attached depth [⟨depth + 1, text⟩] :=
  ⟨by simpa [Flat] using flat, by simp, by simpa using letter⟩

theorem Attached.valued {depth : Nat} {front value : String} (flat : OneLine front.toList)
    (letter : Lettered front.toList) (line : OneLine value.toList) :
    Attached depth [⟨depth + 1, front ++ value⟩] := by
  refine .line ?_ ?_
  · simpa [OneLine] using ⟨flat, line⟩
  · rw [String.toList_append]
    exact letter.append _

def propertyOf (text : List Char) : List Char × List Char :=
  match splitOnce? [':', ' '] text with
  | some (key, value) => (key, trim value)
  | none => (text, [])

theorem propertiesBack {depth k n : Nat} {text : List Char} {ls more : List Line}
    (h : Attached depth ls) (below : Below (depth + 1) more) :
    properties ⟨⟨k, depth, text⟩, scan n (ls ++ more)⟩ =
      ls.map fun l => propertyOf (trimEnd l.text.toList) := by
  have deeper : ∀ n, (scan n more).filter (fun l => decide (l.depth = depth + 1) && !l.isComment) = [] := by
    intro n
    refine List.filter_eq_nil_iff.mpr fun s mem => ?_
    have := below.scanned n s mem
    simp only [Bool.and_eq_true, decide_eq_true_eq, not_and]
    omega
  induction ls generalizing n with
  | nil => simp [properties, deeper n]
  | cons l ls ih =>
    have rest := ih (n := n + 1) h.tail
    obtain ⟨c, first, letter⟩ := h.letter l (by simp)
    have plain := letterPlain (.inl letter)
    obtain ⟨tail, whole⟩ := List.head?_eq_some_iff.mp first
    have noComment : SourceLine.isComment ⟨n, l.depth, trimEnd l.text.toList⟩ = false := by
      simp [SourceLine.isComment, List.isPrefixOf, whole, trimEndCons plain.1, Ne.symm plain.2.2.1]
    simp only [properties] at rest ⊢
    rw [List.cons_append, (h.seen l (by simp)).scanned, List.filter_cons, noComment, h.deep l (by simp)]
    simp only [decide_true, Bool.not_false, Bool.and_self, if_true, List.map_cons, rest]
    rfl

theorem propertyExact {key value : List Char} (noMark : ':' ∉ key) (starts : StartsFilled value)
    (ends : EndsFilled value) : propertyOf (key ++ ':' :: ' ' :: value) = (key, value) := by
  have found : splitOnce? [':', ' '] (key ++ [':', ' '] ++ value) = some (key, value) :=
    splitOnceAt noMark
  rw [List.append_assoc] at found
  simp only [List.cons_append, List.nil_append] at found
  simp [propertyOf, found, trimFixed starts ends]

theorem propertyStart {c : Char} (noMark : c ≠ ':') (rest : List Char) :
    (propertyOf (c :: rest)).1.head? = some c := by
  unfold propertyOf
  split
  · rename_i key value found
    simp only [splitOnce?, afterStart?, if_neg (Ne.symm noMark)] at found
    obtain ⟨p, _, same⟩ := Option.map_eq_some_iff.mp found
    cases same
    rfl
  · rfl

section Vocabulary
variable {β : Type} [Vocabulary β]

theorem readLastAbsent {key : String} {props : List (List Char × List Char)}
    (absent : ∀ p ∈ props, p.1 ≠ key.toList) :
    readLast key props = .ok (none : Option β) := by
  induction props with
  | nil => rfl
  | cons p props ih =>
    obtain ⟨head, rest⟩ := List.forall_mem_cons.mp absent
    rw [readLast, if_neg head, ih rest]

def Solid (s : List Char) : Prop := s ≠ [] ∧ ∀ c ∈ s, isBlank c = false
instance (s) : Decidable (Solid s) := @instDecidableAnd _ _ _ (List.decidableBAll _ _)

theorem Solid.starts {s : List Char} (h : Solid s) : StartsFilled s :=
  fun c first => h.2 c (List.mem_of_mem_head? first)

theorem Solid.line {s : List Char} (h : Solid s) : LineText s := by
  refine ⟨h.1, fun c last => h.2 c (List.mem_of_getLast? last), fun feed => ?_⟩
  have := h.2 _ feed
  revert this; decide

structure Spelled (β : Type) [Vocabulary β] : Prop where
  back : ∀ v : β, Vocabulary.ofToken (Vocabulary.token v) = .ok v
  solid : ∀ v : β, Solid (Vocabulary.token v).toList

theorem modesSpelled : Spelled TableMode := ⟨fun v => by cases v <;> rfl, fun v => by cases v <;> decide⟩
theorem dataTypesSpelled : Spelled DataType := ⟨fun v => by cases v <;> rfl, fun v => by cases v <;> decide⟩
theorem filtersSpelled : Spelled CrossFilter := ⟨fun v => by cases v <;> rfl, fun v => by cases v <;> decide⟩

theorem propertyLine {text : String} {key value : List Char} (split : text.toList = key ++ ':' :: ' ' :: value)
    (noMark : ':' ∉ key) (starts : StartsFilled value) (line : LineText value) :
    propertyOf (trimEnd text.toList) = (key, value) := by
  have ends : EndsFilled (key ++ ':' :: ' ' :: value) := by
    intro c last
    rw [List.getLast?_append, List.getLast?_cons_cons, List.getLast?_cons,
      List.getLast?_eq_some_getLast line.filled] at last
    exact line.ends c (by rw [List.getLast?_eq_some_getLast line.filled]; simpa using last)
  rw [split, trimEndFixed ends, propertyExact noMark starts line.ends]

theorem keysDiffer {depth : Nat} {key : String} {ls : List Line} (h : Attached depth ls)
    (differ : ∀ l ∈ ls, l.text.toList.head? ≠ key.toList.head?) :
    ∀ p ∈ ls.map fun l => propertyOf (trimEnd l.text.toList), p.1 ≠ key.toList := by
  intro p mem same
  obtain ⟨l, member, rfl⟩ := List.mem_map.mp mem
  obtain ⟨c, first, letter⟩ := h.letter l member
  obtain ⟨tail, text⟩ := List.head?_eq_some_iff.mp first
  have noMark : c ≠ ':' := by
    rintro rfl
    revert letter; decide
  have start : (propertyOf (trimEnd l.text.toList)).1.head? = some c := by
    rw [text, trimEndCons (asciiFilled (.inl letter))]
    exact propertyStart noMark _
  exact differ l member (first.trans (by rw [← same, start]))

theorem readFirst (spelled : Spelled β) (v : β) {key : String} {depth k n : Nat} {text : List Char}
    {l : Line} {rest : List Line} (more : List Line) (noMark : ':' ∉ key.toList)
    (first : l.text.toList = key.toList ++ ':' :: ' ' :: (Vocabulary.token v).toList)
    (attached : Attached depth ([l] ++ rest))
    (differ : ∀ l ∈ rest, l.text.toList.head? ≠ key.toList.head?) (below : Below (depth + 1) more) :
    readLast key (properties ⟨⟨k, depth, text⟩, scan n ([l] ++ rest ++ more)⟩) = .ok (some v) := by
  have solid := spelled.solid v
  have others : Attached depth rest := attached.tail
  have later := readLastAbsent (β := β) (keysDiffer others differ)
  rw [propertiesBack attached below, List.map_append, List.map_cons, List.map_nil, List.singleton_append,
    propertyLine first noMark solid.starts solid.line, readLast, if_pos rfl, String.ofList_toList,
    spelled.back, later]
  rfl

end Vocabulary

theorem Reads.formula {α : Type} {depth : Nat} {f : Section → Except ReadFault α} {w name e : String}
    {more : List Line} (front : String) (mk : String → String → α) (isWord : IsWord w)
    (reader : ∀ s rest, s.head.text = w.toList ++ ' ' :: rest → f s = do
      let n ← readName s.head rest
      return mk n.1 (← readFormula s n.2))
    (split : front.toList = w.toList ++ [' ']) (flat : OneLine name.toList) (attached : Attached depth more) :
    Reads depth f (formula depth (front ++ quote name) e ++ more) [mk name (readBack (Expression.normalize e))] := by
  have tail := formulaTailText e
  have stops : Stops (formulaTail e) := by
    unfold formulaTail
    split <;> exact stopsSpace _
  have whole : (front ++ quote name ++ String.ofList (formulaTail e)).toList =
      w.toList ++ ' ' :: (encode name.toList ++ formulaTail e) := by
    rw [String.toList_append, quotedText split]
    simp
  rw [formulaLines, List.cons_append]
  refine .headed isWord rfl whole (.append (encodeLine flat).flat tail)
    (List.forall_mem_append.mpr ⟨formulaBodyFlat depth e, attached.flat⟩)
    (List.forall_mem_append.mpr ⟨formulaBodyBelow depth e, attached.below⟩) fun n => ?_
  rw [reader _ _ rfl, readNameEncode _ stops]
  change (do return mk name (← readFormula _ (formulaTail e))) = _
  rw [readFormulaBack rfl attached.opens]
  rfl

end Tabular.Definition

import Tabular.Proofs.Definition.Header
import Tabular.Proofs.Definition.Pass

/-! Faults that name a line. They name the head of the object that could not be read, and all that stands in
front of this line can be read on its own. Faults about words and missing properties name no line, and nothing
is said of them. -/
namespace Tabular.Definition
open Text

def ReadFault.place? : ReadFault → Option (Nat × String)
  | .unexpected line text => some (line, text)
  | .badName line text => some (line, text)
  | .missing _ _ => none
  | .unknownWord _ => none

def SourceLine.place (l : SourceLine) : Nat × String := (l.number, String.ofList l.text)

section AtHead
variable {α β : Type} {head : SourceLine}

def BlamesHead (head : SourceLine) (x : Except ReadFault α) : Prop :=
  ∀ fault place, x = .error fault → fault.place? = some place → place = head.place

theorem BlamesHead.ok (v : α) : BlamesHead head (.ok v) := fun _ _ failed => by
  contradiction

theorem BlamesHead.bind {x : Except ReadFault β} {g : β → Except ReadFault α} (first : BlamesHead head x)
    (each : ∀ v, BlamesHead head (g v)) : BlamesHead head (x >>= g) := by
  intro fault place failed placed
  rcases bindError.mp failed with early | ⟨v, _, late⟩
  · exact first fault place early placed
  · exact each v fault place late placed

theorem BlamesHead.unexpected : BlamesHead head (.error head.unexpected : Except ReadFault α) := by
  intro fault place failed placed
  cases failed
  exact (Option.some.inj placed).symm

theorem BlamesHead.unplaced {fault : ReadFault} (none : fault.place? = none) :
    BlamesHead head (.error fault : Except ReadFault α) := by
  intro other place failed placed
  cases failed
  rw [none] at placed
  contradiction

theorem nameBlames {s : List Char} : BlamesHead head (readName head s) := by
  unfold readName
  split
  · exact .ok _
  · intro fault place failed placed
    cases failed
    exact (Option.some.inj placed).symm

theorem formulaBlames {s : Section} {rest : List Char} : BlamesHead s.head (readFormula s rest) := by
  unfold readFormula
  split
  · split <;> exact .ok _
  · exact .unexpected

theorem wordBlames {x : Except UnknownWord α} : BlamesHead head (liftWord x) := by
  cases x with
  | ok v => exact .ok v
  | error word => exact .unplaced rfl

theorem lastBlames [Vocabulary α] {key : String} {props : List (List Char × List Char)} :
    BlamesHead head (readLast (α := α) key props) := by
  induction props with
  | nil => exact .ok _
  | cons p props ih =>
    rw [readLast]
    split
    · exact .bind wordBlames fun _ => .bind ih fun _ => .ok _
    · exact ih

theorem requiredBlames {name key : String} {props : List (List Char × List Char)} :
    BlamesHead head (required name props key) := by
  unfold required
  split
  · exact .ok _
  · exact .unplaced rfl

theorem endpointBlames {name key : String} {props : List (List Char × List Char)} :
    BlamesHead head (readEndpoint name props key) := by
  refine .bind requiredBlames fun value => ?_
  split
  · exact .ok _
  · exact .unplaced rfl

theorem relationshipBlames {s : Section} {name : String} : BlamesHead head (readRelationship s name) := by
  refine .bind endpointBlames fun source => .bind endpointBlames fun target => ?_
  refine .bind requiredBlames fun sourceEnd => .bind requiredBlames fun targetEnd => ?_
  exact .bind wordBlames fun _ => .bind requiredBlames fun _ => .bind wordBlames fun _ => .ok _

theorem refBlames {s : Section} {rest : List Char} : BlamesHead s.head (readRef s rest) := by
  refine .bind nameBlames fun n => ?_
  split
  · exact .ok _
  split
  · exact .ok _
  · exact .ok _

theorem tablePartBlames (s : Section) : BlamesHead s.head (readTablePart s) := by
  unfold readTablePart
  dsimp only
  split
  · exact .bind nameBlames fun _ => .bind lastBlames fun _ => .ok _
  split
  · exact .bind nameBlames fun _ => .bind lastBlames fun _ => .ok _
  split
  · exact .bind nameBlames fun _ => .bind formulaBlames fun _ => .ok _
  split
  · exact .bind nameBlames fun _ => .bind formulaBlames fun _ => .ok _
  · exact .unexpected

theorem levelBlames (s : Section) : BlamesHead s.head (readLevel s) := by
  unfold readLevel
  dsimp only
  split
  · exact .bind nameBlames fun _ => .ok _
  · exact .ok _

theorem rolePartBlames (s : Section) : BlamesHead s.head (readRolePart s) := by
  unfold readRolePart
  dsimp only
  split
  · exact .bind nameBlames fun _ => .bind formulaBlames fun _ => .ok _
  split
  · exact .bind nameBlames fun _ => .ok _
  · exact .ok _

end AtHead

section Below
variable {α β : Type} {head : SourceLine}

def BlamesLine (head : SourceLine) (r : List SourceLine → Except ReadFault α) : Prop :=
  ∀ body fault place, r body = .error fault → fault.place? = some place →
    place = head.place ∨ ∃ front l back, body = front ++ l :: back ∧ place = l.place ∧ ∃ v, r front = .ok v

theorem BlamesLine.atHead {r : List SourceLine → Except ReadFault α} (each : ∀ body, BlamesHead head (r body)) :
    BlamesLine head r :=
  fun body fault place failed placed => .inl (each body fault place failed placed)

theorem BlamesLine.bind {x : Except ReadFault β} {r : β → List SourceLine → Except ReadFault α}
    (first : BlamesHead head x) (each : ∀ v, BlamesLine head (r v)) :
    BlamesLine head fun body => x >>= fun v => r v body := by
  intro body fault place failed placed
  rcases bindError.mp failed with early | ⟨v, here, late⟩
  · exact .inl (first fault place early placed)
  · rw [here]
    exact each v body fault place late placed

theorem BlamesLine.map {r : List SourceLine → Except ReadFault β} (g : β → α) (blames : BlamesLine head r) :
    BlamesLine head fun body => do return g (← r body) := by
  intro body fault place failed placed
  rcases bindError.mp failed with inside | ⟨v, _, late⟩
  · rcases blames body fault place inside placed with atHead | ⟨front, l, back, split, same, v, read⟩
    · exact .inl atHead
    · exact .inr ⟨front, l, back, split, same, g v, bindOk.mpr ⟨v, read, rfl⟩⟩
  · contradiction

theorem BlamesLine.ite {c : Prop} [Decidable c] {r q : List SourceLine → Except ReadFault α}
    (yes : BlamesLine head r) (no : BlamesLine head q) :
    BlamesLine head fun body => if c then r body else q body := by
  by_cases h : c
  · simpa only [if_pos h] using yes
  · simpa only [if_neg h] using no

theorem standingStops {depth : Nat} {front back : List SourceLine} {l y : SourceLine} (inside : y ∈ front ++ [l])
    (shallow : y.depth < depth) : standing depth (front ++ l :: back) = standing depth front := by
  induction front with
  | nil =>
    have same : y = l := by simpa using inside
    exact standingStop (same ▸ shallow) back
  | cons x front ih =>
    by_cases deep : depth ≤ x.depth
    · have later : y ∈ front ++ [l] := by
        rcases List.mem_cons.mp inside with rfl | later
        · omega
        · exact later
      rw [List.cons_append, standingCons deep, standingCons deep, ih later]
    · rw [List.cons_append, standingStop (by omega), standingStop (by omega)]

theorem objectsAlone {l : SourceLine} (solid : l.isComment = false) {body : List SourceLine}
    (deep : ∀ x ∈ body, l.depth + 1 ≤ x.depth) : objects l.depth (l :: body) = [⟨l, body⟩] := by
  have whole : standing (l.depth + 1) body = body :=
    List.takeWhile_eq_self_iff.mpr fun x mem => by simpa using deep x mem
  have nothing : objects l.depth body = [] := by
    rw [objects, sectionsDeep deep]
    rfl
  rw [objectsHead solid, whole, nothing]

/-- A line has the place, and the objects in front of it can be read. Up to this line one stands at their depth,
so that they all end where they ended. -/
structure Blamed (depth : Nat) (f : Section → Except ReadFault α) (ls : List SourceLine) (place : Nat × String)
    (front : List SourceLine) (l : SourceLine) (back : List SourceLine) : Prop where
  split : ls = front ++ l :: back
  place : place = l.place
  level : ∃ y ∈ front ++ [l], y.depth = depth
  read : ∃ xs, (objects depth front).mapM f = .ok xs

section Objects
variable {f : Section → Except ReadFault α} {depth : Nat} {ls : List SourceLine} {fault : ReadFault}
  {place : Nat × String} {l : SourceLine}

theorem firstBlamed (blames : BlamesLine l fun body => f ⟨l, body⟩) (solid : l.isComment = false)
    (failed : f ⟨l, standing (l.depth + 1) ls⟩ = .error fault) (placed : fault.place? = some place) :
    ∃ front x back, Blamed l.depth f (l :: ls) place front x back := by
  rcases blames _ fault place failed placed with atHead | ⟨front, x, back, split, same, v, read⟩
  · exact ⟨[], l, ls, rfl, atHead, ⟨l, by simp, rfl⟩, [], rfl⟩
  · have deep : ∀ y ∈ front, l.depth + 1 ≤ y.depth := fun y mem => by
      have inside : y ∈ standing (l.depth + 1) ls := by
        rw [split]
        exact List.mem_append_left _ mem
      simpa using List.mem_takeWhile_imp inside
    obtain ⟨behind, whole⟩ : standing (l.depth + 1) ls <+: ls := List.takeWhile_prefix _
    refine ⟨l :: front, x, back ++ behind, ?_, same, ⟨l, by simp, rfl⟩, [v], ?_⟩
    · rw [← whole, split, List.append_assoc, List.cons_append, List.cons_append]
    · rw [objectsAlone solid deep, List.mapM_cons]
      exact bindOk.mpr ⟨v, read, rfl⟩

theorem Blamed.skip {front back : List SourceLine} {x : SourceLine} (other : l.depth ≠ depth ∨ l.isComment = true)
    (blamed : Blamed depth f ls place front x back) : Blamed depth f (l :: ls) place (l :: front) x back := by
  obtain ⟨y, inside, level⟩ := blamed.level
  refine ⟨by rw [blamed.split, List.cons_append], blamed.place, ⟨y, .tail l inside, level⟩, ?_⟩
  rw [objectsOther other]
  exact blamed.read

theorem Blamed.pass {front back : List SourceLine} {x : SourceLine} {v : α} (solid : l.isComment = false)
    (first : f ⟨l, standing (l.depth + 1) ls⟩ = .ok v) (blamed : Blamed l.depth f ls place front x back) :
    Blamed l.depth f (l :: ls) place (l :: front) x back := by
  obtain ⟨y, inside, level⟩ := blamed.level
  obtain ⟨xs, read⟩ := blamed.read
  have body : standing (l.depth + 1) ls = standing (l.depth + 1) front := by
    rw [blamed.split]
    exact standingStops inside (by omega)
  refine ⟨by rw [blamed.split, List.cons_append], blamed.place, ⟨l, by simp, rfl⟩, v :: xs, ?_⟩
  rw [objectsHead solid, ← body, List.mapM_cons, first, read]
  rfl

theorem objectsBlame (blames : ∀ l, BlamesLine l fun body => f ⟨l, body⟩)
    (failed : (objects depth ls).mapM f = .error fault) (placed : fault.place? = some place) :
    ∃ front x back, Blamed depth f ls place front x back := by
  induction ls with
  | nil => contradiction
  | cons l ls ih =>
    by_cases other : l.depth ≠ depth ∨ l.isComment = true
    · rw [objectsOther other] at failed
      obtain ⟨front, x, back, blamed⟩ := ih failed
      exact ⟨_, x, back, blamed.skip other⟩
    · obtain ⟨rfl, solid⟩ : l.depth = depth ∧ l.isComment = false := by simpa using other
      rw [objectsHead solid, List.mapM_cons] at failed
      rcases bindError.mp failed with here | ⟨v, first, later⟩
      · exact firstBlamed (blames l) solid here placed
      · rcases bindError.mp later with rest | ⟨_, _, done⟩
        · obtain ⟨front, x, back, blamed⟩ := ih rest
          exact ⟨_, x, back, blamed.pass solid first⟩
        · contradiction

end Objects

theorem partsBlame {f : Section → Except ReadFault α} (blames : ∀ l, BlamesLine l fun body => f ⟨l, body⟩) :
    BlamesLine head fun body => (parts ⟨head, body⟩).mapM f := by
  intro body fault place failed placed
  obtain ⟨front, l, back, blamed⟩ := objectsBlame blames failed placed
  exact .inr ⟨front, l, back, blamed.split, blamed.place, blamed.read⟩

end Below

theorem itemBlames (head : SourceLine) : BlamesLine head fun body => readItem ⟨head, body⟩ := by
  unfold readItem
  dsimp only
  refine .ite ?table (.ite ?measure (.ite ?relationship (.ite ?hierarchy (.ite ?role (.ite ?ref ?other)))))
  case table =>
    refine .bind nameBlames fun n => .map Item.table (.map _ (partsBlame fun l => ?_))
    exact .atHead fun body => tablePartBlames ⟨l, body⟩
  case measure =>
    exact .atHead fun body => .bind nameBlames fun _ => .bind formulaBlames fun _ => .ok _
  case relationship =>
    exact .atHead fun body => .bind nameBlames fun _ => .bind relationshipBlames fun _ => .ok _
  case hierarchy =>
    refine .bind nameBlames fun n => .map Item.hierarchy (.map _ (partsBlame fun l => ?_))
    exact .atHead fun body => levelBlames ⟨l, body⟩
  case role =>
    refine .bind nameBlames fun n => .map Item.role (.map _ (partsBlame fun l => ?_))
    exact .atHead fun body => rolePartBlames ⟨l, body⟩
  case ref =>
    exact .atHead fun body => refBlames
  case other =>
    exact .ite (.atHead fun _ => .ok _) (.atHead fun _ => .unexpected)

theorem numberLinesFront {n : Nat} {raws : List (List Char)} {front back : List SourceLine} {l : SourceLine}
    (split : numberLines n raws = front ++ l :: back) : ∃ above raw below, raws = above ++ raw :: below ∧
      l.number = n + above.length ∧ l.text = wording raw ∧ numberLines n above = front := by
  induction raws generalizing n front with
  | nil => simp [numberLines] at split
  | cons raw raws ih =>
    rw [numberLinesRaw] at split
    by_cases h : filled raw = true
    · rw [if_pos h] at split
      cases front with
      | nil =>
        obtain ⟨rfl, _⟩ := List.cons.inj split
        exact ⟨[], raw, raws, rfl, rfl, rfl, rfl⟩
      | cons x front =>
        obtain ⟨rfl, rest⟩ := List.cons.inj split
        obtain ⟨above, target, below, rfl, number, text, rfl⟩ := ih rest
        refine ⟨raw :: above, target, below, rfl, ?_, text, by rw [numberLinesRaw, if_pos h]⟩
        rw [number, List.length_cons]
        omega
    · rw [if_neg h] at split
      obtain ⟨above, target, below, rfl, number, text, rfl⟩ := ih split
      refine ⟨raw :: above, target, below, rfl, ?_, text, by rw [numberLinesRaw, if_neg h]⟩
      rw [number, List.length_cons]
      omega

theorem faultsPlaced {s : String} {fault : ReadFault} {line : Nat} {text : String}
    (failed : read s = .error fault) (placed : fault.place? = some (line, text)) :
    1 ≤ line ∧ line ≤ (lines s.toList).length ∧
    (∃ raw, (lines s.toList)[line - 1]? = some raw ∧ text.toList = wording raw) ∧
    ∃ before behind d, s = before ++ behind ∧ lines before.toList = (lines s.toList).take (line - 1) ∧
      lines behind.toList = (lines s.toList).drop (line - 1) ∧ read before = .ok d := by
  have unread : readLines (sourceLines s.toList) = .error fault := by
    rcases bindError.mp failed with unread | ⟨_, _, done⟩
    · exact unread
    · contradiction
  obtain ⟨front, l, back, blamed⟩ := objectsBlame itemBlames unread placed
  obtain ⟨above, raw, below, split, number, shown, counted⟩ := numberLinesFront blamed.split
  obtain ⟨before, behind, whole, upper, lower⟩ := linesCut s.toList above.length
  obtain ⟨rfl, rfl⟩ := Prod.mk.inj blamed.place
  have place : l.number - 1 = above.length := by omega
  have inside : above.length < (lines s.toList).length := by
    rw [split, List.length_append, List.length_cons]
    omega
  obtain ⟨items, readFront⟩ : ∃ items, readLines front = .ok items := blamed.read
  have kept : sourceLines before = front := by
    rw [sourceLines, upper, split, List.take_left, counted]
  rw [place]
  refine ⟨by omega, by omega, ⟨raw, by rw [split]; simp, by rw [String.toList_ofList, shown]⟩,
    String.ofList before, String.ofList behind, outline items, ?_, ?_, ?_, ?_⟩
  · rw [← String.ofList_append, ← whole, String.ofList_toList]
  · rw [String.toList_ofList, upper]
  · rw [String.toList_ofList, lower]
  · exact readOk.mpr ⟨items, by rw [String.toList_ofList, kept, readFront], rfl⟩

def unclosed : String :=
  "table T\n\tmeasure M = 1\ntable U\r\n\tcolumn C\n\t\tmeasure\n \n\t\tx\n\tmeasure 'M \t\n\tmeasure N = 2\nrole"

theorem unclosedPlaced : read unclosed = .error (.badName 8 "measure 'M") ∧
    (lines unclosed.toList)[7]? = some "\tmeasure 'M \t".toList ∧
    ∃ before behind d, unclosed = before ++ behind ∧ lines before.toList = (lines unclosed.toList).take 7 ∧
      lines behind.toList = (lines unclosed.toList).drop 7 ∧ read before = .ok d := by
  have failed : read unclosed = .error (.badName 8 "measure 'M") := by decide
  exact ⟨failed, by decide, (faultsPlaced failed rfl).2.2.2⟩

end Tabular.Definition

import Tabular.Proofs.Definition.Kept
import Tabular.Proofs.Name.Exact

/-! Where the names come from. All characters of a name that is read stand on one line of the text, as a token does
not reach over the end of its line. So no name holds a line feed. -/
namespace Tabular.Definition
open Text

def TableOutline.shown (t : TableOutline) : List String :=
  t.name :: (t.columns.map (·.name) ++ t.calculatedColumns.map (·.name) ++ t.measures.map (·.name))

def RelationshipOutline.shown (r : RelationshipOutline) : List String :=
  [r.fromTable, r.fromColumn, r.toTable, r.toColumn]

def Outline.shown (d : Outline) : List String :=
  d.tables.flatMap (·.shown) ++ d.measures.map (·.name) ++ d.relationships.flatMap (·.shown) ++ d.roles.map (·.name)

def Item.shown : Item → List String
  | .table t => t.shown
  | .measure x => [x.name]
  | .relationship r => r.shown
  | .role r => [r.name]
  | _ => []

def TablePart.shown : TablePart → List String
  | .partition _ => []
  | .column c => [c.name]
  | .measure x => [x.name]
  | .calculatedColumn x => [x.name]

def OnLine (ls : List SourceLine) (name : String) : Prop := ∃ l ∈ ls, ∀ c ∈ name.toList, c ∈ l.text

def Section.lines (s : Section) : List SourceLine := s.head :: s.body

theorem OnLine.within {ls more : List SourceLine} {name : String} (on : OnLine ls name) (sub : ls ⊆ more) :
    OnLine more name := by
  obtain ⟨l, mem, inside⟩ := on
  exact ⟨l, sub mem, inside⟩

theorem spelledMem {n token : List Char} (spelled : Name.Spelling n token) {c : Char} (mem : c ∈ n) : c ∈ token := by
  cases spelled with
  | bare => exact mem
  | marked =>
    have doubled : c ∈ n.flatMap fun c => if c = '\x27' then [c, c] else [c] := by
      refine List.mem_flatMap.mpr ⟨c, mem, ?_⟩
      split <;> simp
    simp [Name.marked, doubled]

theorem introducedMem {word name : String} {text tail : List Char} (head : Introduces word text name tail) :
    ∀ c ∈ name.toList, c ∈ text := by
  obtain ⟨rest, rfl, taken⟩ := head
  obtain ⟨token, spelled, rfl⟩ := Name.takenSpelled taken
  intro c mem
  simp [spelledMem spelled mem]

theorem introducedOnLine {word name : String} {s : Section} {tail : List Char}
    (head : Introduces word s.head.text name tail) : OnLine s.lines name :=
  ⟨s.head, List.mem_cons_self, introducedMem head⟩

theorem sectionsWithin {depth : Nat} {ls : List SourceLine} {s : Section} (mem : s ∈ sections depth ls) :
    s.lines ⊆ ls := by
  induction ls with
  | nil => simp [sections] at mem
  | cons l ls ih =>
    rw [sections] at mem
    split at mem
    · rcases List.mem_cons.mp mem with rfl | later
      · exact List.cons_subset_cons l (List.takeWhile_subset _)
      · exact List.subset_cons_of_subset l (ih later)
    · exact List.subset_cons_of_subset l (ih mem)

theorem objectsWithin {depth : Nat} {ls : List SourceLine} {s : Section} (mem : s ∈ objects depth ls) :
    s.lines ⊆ ls :=
  sectionsWithin (List.mem_filter.mp mem).1

theorem readFrom {α β : Type} {f : α → Except ReadFault β} {xs : List α} {ys : List β} (done : xs.mapM f = .ok ys)
    {y : β} (mem : y ∈ ys) : ∃ x ∈ xs, f x = .ok y := by
  induction mapMOk.mp done with
  | nil => contradiction
  | @cons x z xs zs first rest ih =>
    rcases List.mem_cons.mp mem with rfl | later
    · exact ⟨x, List.mem_cons_self, first⟩
    · obtain ⟨x, origin, read⟩ := ih (mapMOk.mpr rest) later
      exact ⟨x, List.mem_cons_of_mem _ origin, read⟩

theorem addedShown {found : List TablePart} {t : TableOutline} {name : String}
    (mem : name ∈ (found.foldl TableOutline.add t).shown) : name ∈ t.shown ∨ ∃ p ∈ found, name ∈ p.shown := by
  induction found generalizing t with
  | nil => exact .inl mem
  | cons p found ih =>
    rcases ih mem with here | ⟨q, later, inside⟩
    · have step : name ∈ t.shown ∨ name ∈ p.shown := by
        cases p <;> simp [TableOutline.add, TableOutline.shown, TablePart.shown] at here ⊢ <;> grind
      exact step.imp_right fun inside => ⟨p, List.mem_cons_self, inside⟩
    · exact .inr ⟨q, List.mem_cons_of_mem p later, inside⟩

theorem tablePartOnLine {s : Section} {p : TablePart} (done : readTablePart s = .ok p) {name : String}
    (mem : name ∈ p.shown) : OnLine s.lines name := by
  cases tablePartRead done with
  | partition => simp [TablePart.shown] at mem
  | column head => exact List.mem_singleton.mp mem ▸ introducedOnLine head
  | measure head => exact List.mem_singleton.mp mem ▸ introducedOnLine head
  | calculatedColumn head => exact List.mem_singleton.mp mem ▸ introducedOnLine head

theorem tableOnLine {s : Section} {own : String} {t : TableOutline} (done : readTable s own = .ok t)
    (heads : OnLine s.lines own) {name : String} (mem : name ∈ t.shown) : OnLine s.lines name := by
  obtain ⟨found, read, whole⟩ := bindOk.mp done
  rw [← pureOk.mp whole] at mem
  rcases addedShown mem with here | ⟨p, inside, mem⟩
  · have same : name = own := by simpa [TableOutline.shown] using here
    exact same ▸ heads
  · obtain ⟨q, part, one⟩ := readFrom read inside
    exact (tablePartOnLine one mem).within fun l below => List.mem_cons_of_mem _ (objectsWithin part below)

theorem propertyMem {s : Section} {p : List Char × List Char} (mem : p ∈ properties s) :
    ∃ l ∈ s.body, ∀ c ∈ p.2, c ∈ l.text := by
  obtain ⟨l, kept, same⟩ := List.mem_map.mp mem
  refine ⟨l, (List.mem_filter.mp kept).1, fun c inside => ?_⟩
  subst same
  split at inside
  · rename_i key value found
    have trimmed : c ∈ value := (List.dropWhile_sublist _).mem (trimEndMem inside)
    simp [splitOnceSplit found, trimmed]
  · contradiction

theorem endpointOnLine {s : Section} {own key : String} {p : String × String}
    (done : readEndpoint own (properties s) key = .ok p) : OnLine s.lines p.1 ∧ OnLine s.lines p.2 := by
  obtain ⟨value, given, done⟩ := bindOk.mp done
  have found : (key.toList, value) ∈ properties s := by
    unfold required at given
    split at given <;> try contradiction
    rename_i looked
    cases given
    obtain ⟨front, back, split, _⟩ := List.lookup_eq_some_iff.mp looked
    simp [split]
  obtain ⟨l, mem, inside⟩ := propertyMem found
  have below : l ∈ s.lines := List.mem_cons_of_mem _ mem
  split at done <;> try contradiction
  rename_i pair decoded
  cases pureOk.mp done
  obtain ⟨left, right, first, second, whole⟩ := Name.decodePairExact.mp decoded
  constructor <;> refine ⟨l, below, fun c mem => inside c ?_⟩ <;> rw [String.toList_ofList] at mem
  · simp [whole, spelledMem first mem]
  · simp [whole, spelledMem second mem]

theorem relationshipOnLine {s : Section} {own : String} {r : RelationshipOutline}
    (done : readRelationship s own = .ok r) {name : String} (mem : name ∈ r.shown) : OnLine s.lines name := by
  simp only [readRelationship, bindOk, pureOk] at done
  obtain ⟨source, left, target, right, _, _, _, _, _, _, _, _, _, _, rfl⟩ := done
  have ends : name = source.1 ∨ name = source.2 ∨ name = target.1 ∨ name = target.2 := by
    simpa [RelationshipOutline.shown] using mem
  rcases ends with rfl | rfl | rfl | rfl
  · exact (endpointOnLine left).1
  · exact (endpointOnLine left).2
  · exact (endpointOnLine right).1
  · exact (endpointOnLine right).2

theorem itemOnLine {s : Section} {item : Item} (done : readItem s = .ok item) {name : String}
    (mem : name ∈ item.shown) : OnLine s.lines name := by
  cases itemRead done with
  | table head body => exact tableOnLine body (introducedOnLine head) mem
  | measure head => exact List.mem_singleton.mp mem ▸ introducedOnLine head
  | relationship _ body => exact relationshipOnLine body mem
  | role head body =>
    rw [Item.shown, roleNamed body] at mem
    exact List.mem_singleton.mp mem ▸ introducedOnLine head
  | _ => simp [Item.shown] at mem

theorem outlineShown {items : List Item} {name : String} (mem : name ∈ (outline items).shown) :
    ∃ item ∈ items, name ∈ item.shown := by
  simp only [Outline.shown, outline, List.mem_append, List.mem_flatMap, List.mem_map,
    (sortByRefsPermutes _ _ _).mem_iff, List.mem_filterMap] at mem
  rcases mem with ((⟨x, ⟨item, origin, picked⟩, inside⟩ | ⟨x, ⟨item, origin, picked⟩, rfl⟩) |
    ⟨x, ⟨item, origin, picked⟩, inside⟩) | ⟨x, ⟨item, origin, picked⟩, rfl⟩
  all_goals
    refine ⟨item, origin, ?_⟩
    cases item <;> cases picked
    first | exact inside | exact List.mem_singleton_self _

theorem numberedFrom {n : Nat} {raws : List (List Char)} {l : SourceLine} (mem : l ∈ numberLines n raws) :
    ∃ raw ∈ raws, ∀ c ∈ l.text, c ∈ raw := by
  induction raws generalizing n with
  | nil => contradiction
  | cons raw raws ih =>
    have later (mem : l ∈ numberLines (n + 1) raws) : ∃ r ∈ raw :: raws, ∀ c ∈ l.text, c ∈ r := by
      obtain ⟨r, origin, inside⟩ := ih mem
      exact ⟨r, List.mem_cons_of_mem raw origin, inside⟩
    rw [numberLinesRaw] at mem
    split at mem
    · rcases List.mem_cons.mp mem with rfl | rest
      · exact ⟨raw, List.mem_cons_self, fun c inside => trimEndMem ((List.dropWhile_sublist _).mem inside)⟩
      · exact later rest
    · exact later mem

theorem shownFrom {s : String} {d : Outline} (done : read s = .ok d) {name : String} (mem : name ∈ d.shown) :
    ∃ raw ∈ lines s.toList, ∀ c ∈ name.toList, c ∈ raw := by
  obtain ⟨items, found, rfl⟩ := readOk.mp done
  obtain ⟨item, inside, shown⟩ := outlineShown mem
  obtain ⟨part, object, read⟩ := readFrom found inside
  obtain ⟨l, on, spelled⟩ := (itemOnLine read shown).within (objectsWithin object)
  obtain ⟨raw, origin, text⟩ := numberedFrom on
  exact ⟨raw, origin, fun c inside => text c (spelled c inside)⟩

theorem shownFlat {s : String} {d : Outline} (done : read s = .ok d) {name : String} (mem : name ∈ d.shown) :
    OneLine name.toList := by
  obtain ⟨raw, line, spelled⟩ := shownFrom done mem
  exact fun feed => linesFlat _ raw line (spelled _ feed)

end Tabular.Definition

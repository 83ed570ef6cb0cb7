import Tabular.Proofs.Definition.Header

/-! No object is lost and none is made up. The lines that head an object are told by their depth and their first
word alone, and a text that can be read has one object for each of them, in their order. Whatever stands
between two such lines, at whatever depth, belongs to the first; a formula reaches over lines that stand two
tabs deeper than its head, so never over a head. -/
namespace Tabular.Definition
open Text Unicode

def Names (word : String) (raw : List Char) (name : String) : Prop :=
  ∃ tail, Introduces word (wording raw) name tail

/-- The lines from the first on that stand that deep, without so many of their tabs and without the blanks at
their ends. -/
def bodyText (depth : Nat) (below : List (List Char)) : List (List Char) :=
  ((below.filter filled).takeWhile fun raw => depth ≤ tabs raw).map fun raw => (trimEnd raw).drop depth

def Expresses (depth : Nat) (word : String) (b : Block) (x : Formula) : Prop :=
  ∃ tail more, Introduces word (wording b.head) x.name tail ∧ trimStart tail = '=' :: more ∧
    x.expression.toList = if trim more = [] then joinLines (bodyText (depth + 2) b.below) else trim more

structure FormulasKept (depth : Nat) (word : String) (raws : List (List Char)) (xs : List Formula) : Prop where
  names : List.Forall₂ (Names word) (raws.filter (headed depth word)) (xs.map (·.name))
  expressions : List.Forall₂ (Expresses depth word) (headers depth word raws) xs

structure TableKept (b : Block) (t : TableOutline) : Prop where
  name : Names "table" b.head t.name
  columns : List.Forall₂ (Names "column") (b.below.filter (headed 1 "column")) (t.columns.map (·.name))
  measures : FormulasKept 1 "measure" b.below t.measures
  calculatedColumns : FormulasKept 1 "calculatedColumn" b.below t.calculatedColumns

structure ObjectsKept (raws : List (List Char)) (d : Outline) : Prop where
  measures : FormulasKept 0 "measure" raws d.measures
  relationships : List.Forall₂ (Names "relationship") (raws.filter (headed 0 "relationship"))
    (d.relationships.map (·.name))
  hierarchies : List.Forall₂ (Names "hierarchy") (raws.filter (headed 0 "hierarchy")) (d.hierarchies.map (·.name))
  tables : ∃ ts, d.tables = ts.mergeSort (inRefOrder (·.name) d.tableRefs) ∧
    List.Forall₂ (Names "table") (raws.filter (headed 0 "table")) (ts.map (·.name)) ∧
    List.Forall₂ TableKept (headers 0 "table" raws) ts
  roles : ∃ rs : List RoleOutline, d.roles = rs.mergeSort (inRefOrder (·.name) d.roleRefs) ∧
    List.Forall₂ (Names "role") (raws.filter (headed 0 "role")) (rs.map (·.name))

theorem namesByLine {γ : Type} {depth : Nat} {word : String} {raws : List (List Char)} {xs : List γ}
    {name : γ → String} (each : List.Forall₂ (fun b x => Names word b.head (name x)) (headers depth word raws) xs) :
    List.Forall₂ (Names word) (raws.filter (headed depth word)) (xs.map name) := by
  rw [← headersLines, List.forall₂_map_left_iff, List.forall₂_map_right_iff]
  exact each

theorem bodySeen (depth n : Nat) (below : List (List Char)) :
    ((numberLines n below).takeWhile fun l => decide (depth ≤ l.depth)).map (bodyLine depth) =
      bodyText depth below := by
  unfold bodyText
  induction below generalizing n with
  | nil => rfl
  | cons raw below ih =>
    rw [numberLinesRaw]
    by_cases h : filled raw = true
    · rw [if_pos h, List.filter_cons_of_pos h, List.takeWhile_cons, List.takeWhile_cons]
      by_cases deep : depth ≤ tabs raw
      · have line : bodyLine depth ⟨n, tabs raw, wording raw⟩ = (trimEnd raw).drop depth := by
          rw [keptRaw h, List.drop_append_of_le_length (by simpa using deep), List.drop_replicate]
          rfl
        simp only [deep, decide_true, if_true, List.map_cons, line, ih (n + 1)]
      · simp [deep]
    · rw [if_neg h, List.filter_cons_of_neg h]
      exact ih (n + 1)

theorem blockExpresses {depth : Nat} {word : String} {b : Block} {s : Section} {name e : String} {tail : List Char}
    (seen : b.Seen depth s) (head : Introduces word s.head.text name tail)
    (body : readFormula s tail = .ok e) : Expresses depth word b ⟨name, e⟩ := by
  obtain ⟨more, sign, whole⟩ := formulaOk body
  obtain ⟨n, below⟩ := seen.body
  rw [seen.text] at head
  rw [seen.depth, below, bodySeen] at whole
  exact ⟨tail, more, head, sign, whole⟩

theorem blockNames {depth : Nat} {word : String} {b : Block} {s : Section} {name : String} {tail : List Char}
    (seen : b.Seen depth s) (head : Introduces word s.head.text name tail) : Names word b.head name :=
  ⟨tail, seen.text ▸ head⟩

def TablePart.column? : TablePart → Option ColumnOutline
  | .column c => some c
  | _ => none

def TablePart.measure? : TablePart → Option Formula
  | .measure x => some x
  | _ => none

def TablePart.calculatedColumn? : TablePart → Option Formula
  | .calculatedColumn x => some x
  | _ => none

theorem partsAdded (found : List TablePart) (t : TableOutline) :
    (found.foldl TableOutline.add t).name = t.name ∧
    (found.foldl TableOutline.add t).columns = t.columns ++ found.filterMap TablePart.column? ∧
    (found.foldl TableOutline.add t).measures = t.measures ++ found.filterMap TablePart.measure? ∧
    (found.foldl TableOutline.add t).calculatedColumns =
      t.calculatedColumns ++ found.filterMap TablePart.calculatedColumn? := by
  induction found generalizing t with
  | nil => simp
  | cons p found ih =>
    obtain ⟨name, columns, measures, calculatedColumns⟩ := ih (t.add p)
    rw [List.foldl_cons, name, columns, measures, calculatedColumns]
    cases p <;>
      simp [TableOutline.add, List.filterMap_cons, TablePart.column?, TablePart.measure?,
        TablePart.calculatedColumn?]

theorem partsPicked : Picks TablePart.words "column" TablePart.column? ∧
    Picks TablePart.words "measure" TablePart.measure? ∧
    Picks TablePart.words "calculatedColumn" TablePart.calculatedColumn? := by
  refine ⟨⟨?_, ?_, by decide⟩, ⟨?_, ?_, by decide⟩, ⟨?_, ?_, by decide⟩⟩ <;> rintro (_ | _ | _ | _) <;>
    simp [TablePart.words, TablePart.column?, TablePart.measure?, TablePart.calculatedColumn?]

section Gathered
variable {β γ : Type} {depth n : Nat} {raws : List (List Char)} {word : String}
  {f : Section → Except ReadFault β} {words : β → List String} {xs : List β}

theorem namesKept {pick : β → Option γ} {name : γ → String} (worded : Worded f words)
    (picks : Picks words word pick) (done : (objects depth (numberLines n raws)).mapM f = .ok xs)
    (one : ∀ s x z, f s = .ok x → pick x = some z → ∃ tail, Introduces word s.head.text (name z) tail) :
    List.Forall₂ (Names word) (raws.filter (headed depth word)) ((xs.filterMap pick).map name) := by
  refine namesByLine ((pickedBlocks (sectionsSeen depth n raws) worded picks done).imp ?_)
  rintro b z ⟨s, x, seen, read, picked⟩
  obtain ⟨tail, head⟩ := one s x z read picked
  exact blockNames seen head

theorem formulasKept {pick : β → Option Formula} (worded : Worded f words) (picks : Picks words word pick)
    (done : (objects depth (numberLines n raws)).mapM f = .ok xs)
    (one : ∀ s x formula, f s = .ok x → pick x = some formula → ∃ tail,
      Introduces word s.head.text formula.name tail ∧ readFormula s tail = .ok formula.expression) :
    FormulasKept depth word raws (xs.filterMap pick) := by
  refine ⟨namesKept worded picks done fun s x formula read picked => ?_,
    (pickedBlocks (sectionsSeen depth n raws) worded picks done).imp ?_⟩
  · obtain ⟨tail, head, _⟩ := one s x formula read picked
    exact ⟨tail, head⟩
  · rintro b formula ⟨s, x, seen, read, picked⟩
    obtain ⟨tail, head, body⟩ := one s x formula read picked
    exact blockExpresses seen head body

end Gathered

theorem tableKept {b : Block} {s : Section} {name : String} {tail : List Char} {t : TableOutline}
    (seen : b.Seen 0 s) (head : Introduces "table" s.head.text name tail) (done : readTable s name = .ok t) :
    TableKept b t := by
  obtain ⟨found, inside, whole⟩ := bindOk.mp done
  obtain ⟨n, below⟩ := seen.body
  obtain ⟨same, columns, measures, calculatedColumns⟩ := partsAdded found { name }
  rw [pureOk.mp whole] at same columns measures calculatedColumns
  have split : (objects 1 (numberLines n b.below)).mapM readTablePart = .ok found := by
    rw [← below, ← inside, parts, seen.depth]
    rfl
  constructor
  case name =>
    rw [same]
    exact blockNames seen head
  case columns =>
    rw [columns]
    refine namesKept tablePartsWorded partsPicked.1 split ?_
    intro s p c read picked
    cases tablePartRead read <;> cases picked
    exact ⟨_, ‹_›⟩
  case measures =>
    rw [measures]
    refine formulasKept tablePartsWorded partsPicked.2.1 split ?_
    intro s p x read picked
    cases tablePartRead read <;> cases picked
    exact ⟨_, ‹_›, ‹_›⟩
  case calculatedColumns =>
    rw [calculatedColumns]
    refine formulasKept tablePartsWorded partsPicked.2.2 split ?_
    intro s p x read picked
    cases tablePartRead read <;> cases picked
    exact ⟨_, ‹_›, ‹_›⟩

def Item.table? : Item → Option TableOutline
  | .table t => some t
  | _ => none

def Item.measure? : Item → Option Formula
  | .measure x => some x
  | _ => none

def Item.relationship? : Item → Option RelationshipOutline
  | .relationship r => some r
  | _ => none

def Item.hierarchy? : Item → Option HierarchyOutline
  | .hierarchy h => some h
  | _ => none

def Item.role? : Item → Option RoleOutline
  | .role r => some r
  | _ => none

theorem itemsPicked : Picks Item.words "table" Item.table? ∧ Picks Item.words "measure" Item.measure? ∧
    Picks Item.words "relationship" Item.relationship? ∧ Picks Item.words "hierarchy" Item.hierarchy? ∧
    Picks Item.words "role" Item.role? := by
  refine ⟨⟨?_, ?_, by decide⟩, ⟨?_, ?_, by decide⟩, ⟨?_, ?_, by decide⟩, ⟨?_, ?_, by decide⟩,
    ⟨?_, ?_, by decide⟩⟩ <;> rintro (_ | _ | _ | _ | _ | _ | _ | _) <;>
    simp [Item.words, settingWords, Item.table?, Item.measure?, Item.relationship?, Item.hierarchy?, Item.role?]

theorem relationshipNamed {s : Section} {name : String} {r : RelationshipOutline}
    (done : readRelationship s name = .ok r) : r.name = name := by
  simp only [readRelationship, bindOk, pureOk] at done
  obtain ⟨_, _, _, _, _, _, _, _, _, _, _, _, _, _, rfl⟩ := done
  rfl

theorem hierarchyNamed {s : Section} {name : String} {h : HierarchyOutline}
    (done : readHierarchy s name = .ok h) : h.name = name := by
  obtain ⟨_, _, whole⟩ := bindOk.mp done
  rw [← pureOk.mp whole]

theorem roleNamed {s : Section} {name : String} {r : RoleOutline} (done : readRole s name = .ok r) :
    r.name = name := by
  have added (found : List RolePart) (r : RoleOutline) : (found.foldl RoleOutline.add r).name = r.name := by
    induction found generalizing r with
    | nil => rfl
    | cons p found ih => cases p <;> exact ih _
  obtain ⟨found, _, whole⟩ := bindOk.mp done
  rw [← pureOk.mp whole, added]

theorem objectsKept {s : String} {d : Outline} (done : read s = .ok d) : ObjectsKept (lines s.toList) d := by
  obtain ⟨items, found, rfl⟩ := readOk.mp done
  obtain ⟨tables, measures, relationships, hierarchies, roles⟩ := itemsPicked
  constructor
  case measures =>
    refine formulasKept itemsWorded measures found ?_
    intro s item x read picked
    cases itemRead read <;> cases picked
    exact ⟨_, ‹_›, ‹_›⟩
  case relationships =>
    refine namesKept itemsWorded relationships found ?_
    intro s item r read picked
    cases itemRead read <;> cases picked
    rw [relationshipNamed ‹_›]
    exact ⟨_, ‹_›⟩
  case hierarchies =>
    refine namesKept itemsWorded hierarchies found ?_
    intro s item h read picked
    cases itemRead read <;> cases picked
    rw [hierarchyNamed ‹_›]
    exact ⟨_, ‹_›⟩
  case tables =>
    have each : List.Forall₂ TableKept (headers 0 "table" (lines s.toList)) (items.filterMap Item.table?) := by
      refine (pickedBlocks (sectionsSeen 0 1 (lines s.toList)) itemsWorded tables found).imp ?_
      rintro b t ⟨s, item, seen, read, picked⟩
      cases itemRead read <;> cases picked
      exact tableKept seen ‹_› ‹_›
    exact ⟨_, sortByRefsStable _ _ _, namesByLine (each.imp fun _ _ kept => kept.name), each⟩
  case roles =>
    refine ⟨items.filterMap Item.role?, sortByRefsStable _ _ _, ?_⟩
    refine namesKept itemsWorded roles found ?_
    intro s item r read picked
    cases itemRead read <;> cases picked
    rw [roleNamed ‹_›]
    exact ⟨_, ‹_›⟩

def strayed : String :=
  "role R\ntable T\n\t\t\tcolumn Deep\n\tmeasure M =\n\t\t\tA\n\n\t\t\t\tcolumn Inside\n\tcolumn C\n///\n" ++
    "\tcolumn Lost\nmeasure N = 2\n\tmeasure Below = 3\nhierarchy H\ntable U\n\tcalculatedColumn D =\nref table U"

def strayedOutline : Outline where
  tables := [{ name := "U", calculatedColumns := [⟨"D", ""⟩] },
    { name := "T", columns := [⟨"C", none⟩], measures := [⟨"M", "A\n\tcolumn Inside"⟩] }]
  measures := [⟨"N", "2"⟩]
  hierarchies := [⟨"H", []⟩]
  roles := [⟨"R", [], []⟩]
  tableRefs := ["U"]

theorem strayedKept : read strayed = .ok strayedOutline ∧ ObjectsKept (lines strayed.toList) strayedOutline := by
  have done : read strayed = .ok strayedOutline := by decide +kernel
  exact ⟨done, objectsKept done⟩

end Tabular.Definition

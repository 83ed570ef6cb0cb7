import Tabular.Proofs.Definition.Scan

/-! A text read in one pass. Each reader is given the line it starts at and all lines behind it, not knowing where
its object ends. It goes on for as long as the lines stand deep enough, and tells how many it has taken. A formula
takes its own lines and leaves the properties for the next; lines that nobody takes are passed over one by
one. The result is that of the sections, so every reader stops where its section ends. -/
namespace Tabular.Definition
open Text

def standing (depth : Nat) (ls : List SourceLine) : List SourceLine := ls.takeWhile fun x => depth ≤ x.depth

def takeFormula (head : SourceLine) (rest : List Char) (ls : List SourceLine) : Except ReadFault (String × Nat) :=
  match trimStart rest with
  | '=' :: more =>
    match trim more with
    | [] =>
      let depth := head.depth + 2
      let body := standing depth ls
      .ok (String.ofList (joinLines (body.map (bodyLine depth))), body.length)
    | inline => .ok (String.ofList inline, 0)
  | _ => .error head.unexpected

def takeFormulaObject (head : SourceLine) (n : String × List Char) (ls : List SourceLine) :
    Except ReadFault (Formula × Nat) := do
  let e ← takeFormula head n.2 ls
  return (⟨n.1, e.1⟩, e.2 + (standing (head.depth + 1) (ls.drop e.2)).length)

def takeObjects {α : Type} (depth : Nat) (take : SourceLine → List SourceLine → Except ReadFault (α × Nat)) :
    List SourceLine → Except ReadFault (List α × Nat)
  | [] => .ok ([], 0)
  | l :: rest =>
    if l.depth < depth then .ok ([], 0)
    else if l.depth ≠ depth ∨ l.isComment then do
      let more ← takeObjects depth take rest
      return (more.1, more.2 + 1)
    else do
      let x ← take l rest
      let more ← takeObjects depth take (rest.drop x.2)
      return (x.1 :: more.1, x.2 + more.2 + 1)
termination_by ls => ls.length
decreasing_by
  · exact Nat.lt_succ_self _
  · exact Nat.lt_succ_of_le (List.drop_sublist ..).length_le

def takeTablePart (head : SourceLine) (ls : List SourceLine) : Except ReadFault (TablePart × Nat) :=
  let word := splitWord head.text
  let below := standing (head.depth + 1) ls
  if word.1 = "partition".toList then do
    let _ ← readName head word.2
    return (.partition (← readLast "mode" (properties ⟨head, below⟩)), below.length)
  else if word.1 = "column".toList then do
    let n ← readName head word.2
    return (.column ⟨n.1, ← readLast "dataType" (properties ⟨head, below⟩)⟩, below.length)
  else if word.1 = "measure".toList then do
    let x ← takeFormulaObject head (← readName head word.2) ls
    return (.measure x.1, x.2)
  else if word.1 = "calculatedColumn".toList then do
    let x ← takeFormulaObject head (← readName head word.2) ls
    return (.calculatedColumn x.1, x.2)
  else .error head.unexpected

def takeLevel (head : SourceLine) (_ : List SourceLine) : Except ReadFault (Option String × Nat) :=
  let word := splitWord head.text
  if word.1 = "level".toList then do
    let n ← readName head word.2
    return (some n.1, 0)
  else .ok (none, 0)

def takeRolePart (head : SourceLine) (ls : List SourceLine) : Except ReadFault (RolePart × Nat) :=
  let word := splitWord head.text
  if word.1 = "tablePermission".toList then do
    let n ← readName head word.2
    let e ← takeFormula head n.2 ls
    return (.permission n.1 e.1, e.2)
  else if word.1 = "member".toList then do
    let n ← readName head word.2
    return (.member n.1, 0)
  else .ok (.other, 0)

def takeItem (head : SourceLine) (ls : List SourceLine) : Except ReadFault (Item × Nat) :=
  let word := splitWord head.text
  let below := standing (head.depth + 1) ls
  if word.1 = "table".toList then do
    let n ← readName head word.2
    let found ← takeObjects (head.depth + 1) takeTablePart ls
    return (.table (found.1.foldl TableOutline.add { name := n.1 }), found.2)
  else if word.1 = "measure".toList then do
    let x ← takeFormulaObject head (← readName head word.2) ls
    return (.measure x.1, x.2)
  else if word.1 = "relationship".toList then do
    let n ← readName head word.2
    return (.relationship (← readRelationship ⟨head, below⟩ n.1), below.length)
  else if word.1 = "hierarchy".toList then do
    let n ← readName head word.2
    let found ← takeObjects (head.depth + 1) takeLevel ls
    return (.hierarchy ⟨n.1, found.1.filterMap id⟩, found.2)
  else if word.1 = "role".toList then do
    let n ← readName head word.2
    let found ← takeObjects (head.depth + 1) takeRolePart ls
    return (.role (found.1.foldl RoleOutline.add ⟨n.1, [], []⟩), found.2)
  else if word.1 = "ref".toList then do
    return (← readRef ⟨head, []⟩ word.2, 0)
  else if word.1 = "model".toList || word.1 = "database".toList || word.1 = "expression".toList then
    .ok (.other, below.length)
  else .error head.unexpected

section Within
variable {α β : Type} {bound : Nat}

def Within (bound : Nat) (taken : Except ReadFault (α × Nat)) (read : Except ReadFault α) : Prop :=
  ∃ k ≤ bound, taken = read.map (·, k)

def Stays (take : SourceLine → List SourceLine → Except ReadFault (α × Nat))
    (f : Section → Except ReadFault α) : Prop :=
  ∀ l ls, Within (standing (l.depth + 1) ls).length (take l ls) (f ⟨l, standing (l.depth + 1) ls⟩)

theorem Within.ok {v : α} {k : Nat} (le : k ≤ bound) : Within bound (.ok (v, k)) (.ok v) := ⟨k, le, rfl⟩

theorem Within.error {fault : ReadFault} : Within bound (.error fault) (.error fault : Except ReadFault α) :=
  ⟨0, Nat.zero_le _, rfl⟩

theorem Within.here {r : Except ReadFault α} : Within bound (do return (← r, 0)) r := by
  cases r with
  | error => exact .error
  | ok v => exact .ok (Nat.zero_le _)

theorem Within.bind {x : Except ReadFault β} {t : β → Except ReadFault (α × Nat)} {r : β → Except ReadFault α}
    (each : ∀ v, Within bound (t v) (r v)) : Within bound (x >>= t) (x >>= r) := by
  cases x with
  | error => exact .error
  | ok v => exact each v

theorem Within.map {t : Except ReadFault (β × Nat)} {r : Except ReadFault β} (g : β → α)
    (same : Within bound t r) :
    Within bound (do let x ← t; return (g x.1, x.2)) (do return g (← r)) := by
  obtain ⟨k, le, rfl⟩ := same
  cases r with
  | error => exact .error
  | ok v => exact .ok le

end Within

section Objects
variable {α : Type} {take : SourceLine → List SourceLine → Except ReadFault (α × Nat)}
  {f : Section → Except ReadFault α}

theorem standingCons {depth : Nat} {l : SourceLine} (deep : depth ≤ l.depth) (ls : List SourceLine) :
    standing depth (l :: ls) = l :: standing depth ls :=
  List.takeWhile_cons_of_pos (by simpa using deep)

theorem standingStop {depth : Nat} {l : SourceLine} (shallow : l.depth < depth) (ls : List SourceLine) :
    standing depth (l :: ls) = [] :=
  List.takeWhile_cons_of_neg (by simpa using shallow)

theorem standingInside (depth : Nat) (ls : List SourceLine) :
    standing (depth + 1) (standing depth ls) = standing (depth + 1) ls := by
  rw [standing, standing, List.takeWhile_takeWhile, standing]
  congr 1
  funext x
  simp only [decide_eq_true_eq, Nat.succ_le_iff, and_iff_left_of_imp Nat.le_of_lt]

theorem standingShorter (depth : Nat) (ls : List SourceLine) :
    (standing (depth + 1) ls).length ≤ (standing depth ls).length := by
  rw [← standingInside]
  exact (List.takeWhile_sublist _).length_le

theorem objectsOther {depth : Nat} {l : SourceLine} (other : l.depth ≠ depth ∨ l.isComment = true)
    (ls : List SourceLine) : objects depth (l :: ls) = objects depth ls := by
  rw [objects, sections]
  split
  · rename_i here
    exact List.filter_cons_of_neg (by simp [other.resolve_left (not_not_intro here)])
  · rfl

theorem objectsHead {l : SourceLine} (solid : l.isComment = false) (ls : List SourceLine) :
    objects l.depth (l :: ls) = ⟨l, standing (l.depth + 1) ls⟩ :: objects l.depth ls := by
  rw [objects, sections, if_pos rfl]
  exact List.filter_cons_of_pos (by simp [solid])

theorem standingDrop {depth k : Nat} {ls : List SourceLine} (le : k ≤ (standing depth ls).length) :
    standing depth (ls.drop k) = (standing depth ls).drop k := by
  induction ls generalizing k with
  | nil => simp [standing]
  | cons l ls ih =>
    cases k with
    | zero => rfl
    | succ k =>
      have deep : depth ≤ l.depth := by
        by_contra shallow
        rw [standingStop (by omega)] at le
        contradiction
      rw [standingCons deep] at le ⊢
      exact ih (Nat.le_of_succ_le_succ le)

theorem objectsDrop {depth k : Nat} {ls : List SourceLine} (le : k ≤ (standing (depth + 1) ls).length) :
    objects depth (ls.drop k) = objects depth ls := by
  induction ls generalizing k with
  | nil => rw [List.drop_nil]
  | cons l ls ih =>
    cases k with
    | zero => rfl
    | succ k =>
      have deep : depth < l.depth := by
        by_contra shallow
        rw [standingStop (by omega)] at le
        contradiction
      rw [standingCons deep] at le
      rw [objectsOther (.inl (Nat.ne_of_gt deep))]
      exact ih (Nat.le_of_succ_le_succ le)

theorem takeObjectsEach (stays : Stays take f) (depth : Nat) (ls : List SourceLine) :
    takeObjects depth take ls =
      ((objects depth (standing depth ls)).mapM f).map (·, (standing depth ls).length) := by
  fun_induction takeObjects depth take ls with
  | case1 => rfl
  | case2 l rest shallow =>
    rw [standingStop shallow]
    rfl
  | case3 l rest deep other ih =>
    rw [ih, standingCons (Nat.le_of_not_lt deep), objectsOther other]
    cases (objects depth _).mapM f <;> rfl
  | case4 l rest deep head ih =>
    obtain ⟨rfl, solid⟩ : l.depth = depth ∧ l.isComment = false := by simpa using head
    obtain ⟨k, le, taken⟩ := stays l rest
    -- what the reader leaves over stands below the head, where nothing starts
    have rest' : standing l.depth (rest.drop k) = (standing l.depth rest).drop k :=
      standingDrop (le.trans (standingShorter ..))
    have same : objects l.depth ((standing l.depth rest).drop k) = objects l.depth (standing l.depth rest) :=
      objectsDrop (by rwa [standingInside])
    rw [taken, standingCons (Nat.le_refl _), objectsHead solid, standingInside, List.mapM_cons]
    cases f ⟨l, standing (l.depth + 1) rest⟩ with
    | error => rfl
    | ok v =>
      change (takeObjects l.depth take (rest.drop k) >>= _) = _
      have size : (standing l.depth rest).length = k + ((standing l.depth rest).drop k).length := by
        rw [List.length_drop, Nat.add_sub_cancel' (le.trans (standingShorter ..))]
      rw [ih (v, k), rest', same, List.length_cons, size]
      cases (objects l.depth _).mapM f <;> rfl

theorem takePartsWithin {β : Type} (stays : Stays take f) (g : List α → β) (l : SourceLine)
    (ls : List SourceLine) : Within (standing (l.depth + 1) ls).length
      (do let found ← takeObjects (l.depth + 1) take ls; return (g found.1, found.2))
      (do return g (← (parts ⟨l, standing (l.depth + 1) ls⟩).mapM f)) :=
  .map g ⟨_, Nat.le_refl _, takeObjectsEach stays (l.depth + 1) ls⟩

end Objects

theorem takeFormulaWithin (l : SourceLine) (rest : List Char) (ls : List SourceLine) :
    Within (standing (l.depth + 1) ls).length (takeFormula l rest ls)
      (readFormula ⟨l, standing (l.depth + 1) ls⟩ rest) := by
  have body : (standing (l.depth + 1) ls).takeWhile (fun x => decide (l.depth + 2 ≤ x.depth)) =
      standing (l.depth + 2) ls := standingInside (l.depth + 1) ls
  by_cases signed : ∃ more, trimStart rest = '=' :: more
  · obtain ⟨more, sign⟩ := signed
    simp only [takeFormula, readFormula, sign]
    cases trim more with
    | nil =>
      simp only [body]
      exact .ok (standingShorter ..)
    | cons => exact .ok (Nat.zero_le _)
  · have unread : readFormula ⟨l, standing (l.depth + 1) ls⟩ rest = .error l.unexpected := by
      unfold readFormula
      split
      · exact absurd ⟨_, ‹_›⟩ signed
      · rfl
    have untaken : takeFormula l rest ls = .error l.unexpected := by
      unfold takeFormula
      split
      · exact absurd ⟨_, ‹_›⟩ signed
      · rfl
    rw [unread, untaken]
    exact .error

theorem takeFormulaObjectWithin {β : Type} (g : Formula → β) (l : SourceLine) (n : String × List Char)
    (ls : List SourceLine) : Within (standing (l.depth + 1) ls).length
      (do let x ← takeFormulaObject l n ls; return (g x.1, x.2))
      (do return g ⟨n.1, ← readFormula ⟨l, standing (l.depth + 1) ls⟩ n.2⟩) := by
  obtain ⟨k, le, taken⟩ := takeFormulaWithin l n.2 ls
  rw [takeFormulaObject, taken]
  cases readFormula ⟨l, standing (l.depth + 1) ls⟩ n.2 with
  | error => exact .error
  | ok e =>
    refine .ok ?_
    rw [standingDrop le, List.length_drop, Nat.add_sub_cancel' le]

theorem takeTablePartStays : Stays takeTablePart readTablePart := by
  intro l ls
  unfold takeTablePart readTablePart
  dsimp only
  split
  · exact .bind fun _ => .bind fun _ => .ok (Nat.le_refl _)
  split
  · exact .bind fun _ => .bind fun _ => .ok (Nat.le_refl _)
  split
  · exact .bind fun n => takeFormulaObjectWithin TablePart.measure l n ls
  split
  · exact .bind fun n => takeFormulaObjectWithin TablePart.calculatedColumn l n ls
  · exact .error

theorem takeLevelStays : Stays takeLevel readLevel := by
  intro l ls
  unfold takeLevel readLevel
  dsimp only
  split
  · exact .bind fun _ => .ok (Nat.zero_le _)
  · exact .ok (Nat.zero_le _)

theorem takeRolePartStays : Stays takeRolePart readRolePart := by
  intro l ls
  unfold takeRolePart readRolePart
  dsimp only
  split
  · exact .bind fun n => (takeFormulaWithin l n.2 ls).map (RolePart.permission n.1)
  split
  · exact .bind fun _ => .ok (Nat.zero_le _)
  · exact .ok (Nat.zero_le _)

theorem takeItemStays : Stays takeItem readItem := by
  intro l ls
  unfold takeItem readItem
  dsimp only
  split
  · refine .bind fun n => ?_
    simp only [readTable, bind_assoc, pure_bind]
    exact takePartsWithin takeTablePartStays
      (fun found => Item.table (found.foldl TableOutline.add { name := n.1 })) l ls
  split
  · exact .bind fun n => takeFormulaObjectWithin Item.measure l n ls
  split
  · exact .bind fun _ => .bind fun _ => .ok (Nat.le_refl _)
  split
  · refine .bind fun n => ?_
    simp only [readHierarchy, bind_assoc, pure_bind]
    exact takePartsWithin takeLevelStays (fun found => Item.hierarchy ⟨n.1, found.filterMap id⟩) l ls
  split
  · refine .bind fun n => ?_
    simp only [readRole, bind_assoc, pure_bind]
    exact takePartsWithin takeRolePartStays
      (fun found => Item.role (found.foldl RoleOutline.add ⟨n.1, [], []⟩)) l ls
  split
  · exact .here
  split
  · exact .ok (Nat.le_refl _)
  · exact .error

theorem readInOnePass (s : String) :
    read s = do return outline (← takeObjects 0 takeItem (sourceLines s.toList)).1 := by
  have all : standing 0 (sourceLines s.toList) = sourceLines s.toList :=
    List.takeWhile_eq_self_iff.mpr fun _ _ => by simp
  rw [takeObjectsEach takeItemStays, all]
  change (do return outline (← readLines (sourceLines s.toList))) = _
  unfold readLines
  cases (objects 0 (sourceLines s.toList)).mapM readItem <;> rfl

end Tabular.Definition

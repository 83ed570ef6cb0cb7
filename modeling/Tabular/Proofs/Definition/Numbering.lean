import Tabular.Proofs.Definition.Scan

/-! Line numbers. A reader puts them into its faults and looks at them nowhere else, so the same lines under
other numbers give the same result, or the same fault with the other number. -/
namespace Tabular.Definition
open Text

def SourceLine.renumber (f : Nat → Nat) (l : SourceLine) : SourceLine := { l with number := f l.number }

def Section.renumber (f : Nat → Nat) (s : Section) : Section := ⟨s.head.renumber f, s.body.map (·.renumber f)⟩

def ReadFault.renumber (f : Nat → Nat) : ReadFault → ReadFault
  | .unexpected line text => .unexpected (f line) text
  | .badName line text => .badName (f line) text
  | .missing object property => .missing object property
  | .unknownWord word => .unknownWord word

section Results
variable {ε δ α β : Type} (h : ε → δ)

theorem mapErrorBind (x : Except ε α) (g : α → Except ε β) :
    (x >>= g).mapError h = x.mapError h >>= fun v => (g v).mapError h := by
  cases x <;> rfl

theorem mapErrorMapM (g : α → Except ε β) (xs : List α) :
    (xs.mapM g).mapError h = xs.mapM fun x => (g x).mapError h := by
  induction xs with
  | nil => rfl
  | cons x xs ih =>
    rw [List.mapM_cons, List.mapM_cons, mapErrorBind, ← ih]
    cases g x with
    | error => rfl
    | ok v => cases xs.mapM g <;> rfl

theorem mapErrorPure (v : α) : (pure v : Except ε α).mapError h = pure v := rfl

theorem mapErrorIf (c : Prop) [Decidable c] (x y : Except ε α) :
    (if c then x else y).mapError h = if c then x.mapError h else y.mapError h := by
  split <;> rfl

theorem mapErrorOk {x : Except ε α} {v : α} (done : x = .ok v) : x.mapError h = .ok v := by
  rw [done]
  rfl

end Results

section Numbers
variable (f : Nat → Nat)

@[simp] theorem headRenumbered (s : Section) : (s.renumber f).head = s.head.renumber f := rfl

@[simp] theorem textRenumbered (l : SourceLine) : (l.renumber f).text = l.text := rfl

theorem numberLinesShift (n k : Nat) (raws : List (List Char)) :
    numberLines (n + k) raws = (numberLines n raws).map (·.renumber (· + k)) := by
  induction raws generalizing n with
  | nil => rfl
  | cons raw raws ih =>
    have found : sourceLine? (n + k) raw = (sourceLine? n raw).map (·.renumber (· + k)) := by
      unfold sourceLine?
      dsimp only
      split <;> rfl
    have rest := ih (n + 1)
    rw [Nat.add_right_comm] at rest
    rw [numberLines, numberLines, found, rest]
    cases sourceLine? n raw <;> rfl

theorem sectionsRenumbered (depth : Nat) (ls : List SourceLine) :
    sections depth (ls.map (·.renumber f)) = (sections depth ls).map (·.renumber f) := by
  induction ls with
  | nil => rfl
  | cons l ls ih =>
    have body : (ls.map (·.renumber f)).takeWhile (fun x => decide (depth < x.depth)) =
        (ls.takeWhile fun x => decide (depth < x.depth)).map (·.renumber f) := List.takeWhile_map
    rw [List.map_cons, sections, sections, ih, body]
    change (if l.depth = depth then _ else _) = _
    split <;> rfl

theorem objectsRenumbered (depth : Nat) (ls : List SourceLine) :
    objects depth (ls.map (·.renumber f)) = (objects depth ls).map (·.renumber f) := by
  rw [objects, sectionsRenumbered, List.filter_map]
  rfl

theorem readNameRenumbered (l : SourceLine) (s : List Char) :
    readName (l.renumber f) s = (readName l s).mapError (·.renumber f) := by
  unfold readName
  split <;> rfl

theorem readFormulaRenumbered (s : Section) (rest : List Char) :
    readFormula (s.renumber f) rest = (readFormula s rest).mapError (·.renumber f) := by
  have body (depth : Nat) :
      ((s.renumber f).body.takeWhile fun l => decide (depth ≤ l.depth)).map (bodyLine depth) =
        (s.body.takeWhile fun l => decide (depth ≤ l.depth)).map (bodyLine depth) := by
    rw [Section.renumber, List.takeWhile_map, List.map_map]
    rfl
  unfold readFormula
  split
  · split
    · dsimp only
      rw [body]
      rfl
    · rfl
  · rfl

theorem propertiesRenumbered (s : Section) : properties (s.renumber f) = properties s := by
  unfold properties Section.renumber
  rw [List.filter_map, List.map_map]
  rfl

theorem liftWordUnnumbered {α : Type} (x : Except UnknownWord α) :
    (liftWord x).mapError (·.renumber f) = liftWord x := by
  cases x <;> rfl

theorem readLastUnnumbered {α : Type} [Vocabulary α] (key : String) (props : List (List Char × List Char)) :
    (readLast (α := α) key props).mapError (·.renumber f) = readLast key props := by
  induction props with
  | nil => rfl
  | cons p props ih =>
    rw [readLast]
    split
    · simp only [mapErrorBind, liftWordUnnumbered, ih, mapErrorPure]
    · exact ih

theorem requiredUnnumbered (name key : String) (props : List (List Char × List Char)) :
    (required name props key).mapError (·.renumber f) = required name props key := by
  unfold required
  split <;> rfl

theorem readEndpointUnnumbered (name key : String) (props : List (List Char × List Char)) :
    (readEndpoint name props key).mapError (·.renumber f) = readEndpoint name props key := by
  rw [readEndpoint, mapErrorBind, requiredUnnumbered]
  congr 1
  funext value
  split <;> rfl

theorem readTablePartRenumbered (s : Section) :
    readTablePart (s.renumber f) = (readTablePart s).mapError (·.renumber f) := by
  simp only [readTablePart, headRenumbered, textRenumbered, mapErrorIf, mapErrorBind, mapErrorPure, readNameRenumbered,
    readFormulaRenumbered, propertiesRenumbered, readLastUnnumbered]
  rfl

theorem eachRenumbered {α : Type} {g : Section → Except ReadFault α}
    (each : ∀ s, g (s.renumber f) = (g s).mapError (·.renumber f)) (ss : List Section) :
    (ss.map (·.renumber f)).mapM g = (ss.mapM g).mapError (·.renumber f) := by
  rw [List.mapM_map, mapErrorMapM]
  simp only [Function.comp_def, each]

theorem partsRenumbered {α : Type} {g : Section → Except ReadFault α}
    (each : ∀ s, g (s.renumber f) = (g s).mapError (·.renumber f)) (s : Section) :
    (parts (s.renumber f)).mapM g = ((parts s).mapM g).mapError (·.renumber f) := by
  have same : parts (s.renumber f) = (parts s).map (·.renumber f) := objectsRenumbered f _ _
  rw [same, eachRenumbered f each]

theorem readTableRenumbered (s : Section) (name : String) :
    readTable (s.renumber f) name = (readTable s name).mapError (·.renumber f) := by
  rw [readTable, readTable, partsRenumbered f (readTablePartRenumbered f), mapErrorBind]
  rfl

theorem readRelationshipRenumbered (s : Section) (name : String) :
    readRelationship (s.renumber f) name = (readRelationship s name).mapError (·.renumber f) := by
  simp only [readRelationship, propertiesRenumbered, mapErrorBind, mapErrorPure, readEndpointUnnumbered,
    requiredUnnumbered, liftWordUnnumbered]

theorem readLevelRenumbered (s : Section) :
    readLevel (s.renumber f) = (readLevel s).mapError (·.renumber f) := by
  simp only [readLevel, headRenumbered, textRenumbered, mapErrorIf, mapErrorBind, mapErrorPure, readNameRenumbered]
  rfl

theorem readHierarchyRenumbered (s : Section) (name : String) :
    readHierarchy (s.renumber f) name = (readHierarchy s name).mapError (·.renumber f) := by
  rw [readHierarchy, readHierarchy, partsRenumbered f (readLevelRenumbered f), mapErrorBind]
  rfl

theorem readRolePartRenumbered (s : Section) :
    readRolePart (s.renumber f) = (readRolePart s).mapError (·.renumber f) := by
  simp only [readRolePart, headRenumbered, textRenumbered, mapErrorIf, mapErrorBind, mapErrorPure, readNameRenumbered,
    readFormulaRenumbered]
  rfl

theorem readRoleRenumbered (s : Section) (name : String) :
    readRole (s.renumber f) name = (readRole s name).mapError (·.renumber f) := by
  rw [readRole, readRole, partsRenumbered f (readRolePartRenumbered f), mapErrorBind]
  rfl

theorem readRefRenumbered (s : Section) (rest : List Char) :
    readRef (s.renumber f) rest = (readRef s rest).mapError (·.renumber f) := by
  simp only [readRef, headRenumbered, mapErrorIf, mapErrorBind, mapErrorPure, readNameRenumbered]

theorem readItemRenumbered (s : Section) :
    readItem (s.renumber f) = (readItem s).mapError (·.renumber f) := by
  simp only [readItem, headRenumbered, textRenumbered, mapErrorIf, mapErrorBind, mapErrorPure, readNameRenumbered,
    readFormulaRenumbered, readTableRenumbered, readRelationshipRenumbered, readHierarchyRenumbered,
    readRoleRenumbered, readRefRenumbered]
  rfl

theorem readLinesRenumbered (ls : List SourceLine) :
    readLines (ls.map (·.renumber f)) = (readLines ls).mapError (·.renumber f) := by
  rw [readLines, readLines, objectsRenumbered, eachRenumbered f (readItemRenumbered f)]

end Numbers

end Tabular.Definition

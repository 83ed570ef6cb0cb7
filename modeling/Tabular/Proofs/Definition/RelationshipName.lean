import Tabular.Proofs.Definition.Document

/-! Names of relationships. They are put together from the names of both ends, so that different ends may give
the same name, and a number that tells two of them apart may be what a third one is called after. -/
namespace Tabular.Definition
open Name Text

structure RelationshipsNamed (rs : List Relationship) (names : List String) : Prop where
  spelled : List.Forall₂ (fun r name =>
    name = r.fromTable ++ "." ++ r.fromColumn ++ " -> " ++ r.toTable ++ "." ++ r.toColumn ∨
    ∃ n ≥ 2, name = r.fromTable ++ "." ++ r.fromColumn ++ " -> " ++ r.toTable ++ "." ++ r.toColumn ++ " \x23"
      ++ toString n) rs names
  searched : ClaimedInOrder id relationshipCandidate rs names
  apart : names.Nodup

theorem candidatesApart (r : Relationship) : Function.Injective fun k => id (relationshipCandidate r k) := by
  have numbered (k : Nat) : (relationshipCandidate r (k + 1)).toList =
      (relationshipCandidate r 0).toList ++ (" \x23".toList ++ decimal (k + 2)) := by
    simp [relationshipCandidate]
  have apart : Function.Injective fun k => (relationshipCandidate r k).toList := numberedApart (by decide) rfl numbered
  exact fun j k same => apart (congrArg String.toList same)

theorem relationshipsNamed (rs : List Relationship) : RelationshipsNamed rs (relationshipNames rs) := by
  refine ⟨(relationshipNamesFrom rs).imp ?_, claimedInOrder candidatesApart rs, ?_⟩
  · rintro r _ ⟨k, rfl⟩
    cases k with
    | zero => exact .inl (by rw [relationshipCandidate])
    | succ k =>
      refine .inr ⟨k + 2, by omega, ?_⟩
      rw [relationshipCandidate, relationshipCandidate, Nat.toString_eq_ofList_toDigits, decimal]
  · have distinct := (claimAllDistinct candidatesApart [] rs).1
    rwa [List.map_id] at distinct

def isRelationshipHead (l : Line) : Bool := l.depth = 0 && "relationship ".toList.isPrefixOf l.text.toList

def relationshipHead (name : String) : Line := ⟨0, "relationship " ++ quote name⟩

def relationshipText (rs : List Relationship) : String := render (separated (relationshipBlocks rs))

theorem commentNoHead (depth : Nat) (description : Option String) :
    (comment depth description).filter isRelationshipHead = [] := by
  cases description with
  | none => rfl
  | some d =>
    refine List.filter_eq_nil_iff.mpr fun l member => ?_
    obtain ⟨source, _, rfl⟩ := List.mem_map.mp member
    obtain ⟨rest, text, _⟩ := commentMarked source
    simp [isRelationshipHead, text]

theorem endpointsNoHead (r : Relationship) : (endpointLines r).filter isRelationshipHead = [] := by
  refine List.filter_eq_nil_iff.mpr fun l member => ?_
  have deep : l.depth = 1 := by
    simp only [endpointLines, flag, List.mem_append, List.mem_cons, List.not_mem_nil, or_false] at member
    rcases member with (rfl | rfl | rfl | rfl | rfl) | inactive
    case inr =>
      split at inactive
      · rw [List.mem_singleton.mp inactive]
      · cases inactive
    all_goals rfl
  simp [isRelationshipHead, deep]

theorem relationshipLinesHead (name : String) (r : Relationship) :
    (relationshipLines name r).filter isRelationshipHead = [relationshipHead name] := by
  have lines : relationshipLines name r = comment 0 r.description ++ (relationshipHead name :: endpointLines r) := by
    simp only [relationshipLines, relationshipHead, endpointLines, List.append_assoc, List.cons_append,
      List.nil_append]
  have head : isRelationshipHead (relationshipHead name) = true := by
    simp [isRelationshipHead, relationshipHead]
  rw [lines, List.filter_append, commentNoHead, List.filter_cons_of_pos head, endpointsNoHead]
  rfl

theorem spacedHeads {blocks : List (List Line)} {names : List String}
    (each : List.Forall₂ (fun block name => block.filter isRelationshipHead = [relationshipHead name]) blocks names) :
    (spaced blocks).filter isRelationshipHead = names.map relationshipHead := by
  have blank : isRelationshipHead Line.blank = false := by decide
  induction each with
  | nil => rfl
  | cons first _ ih =>
    rw [spaced, List.flatMap_cons, ← spaced, List.cons_append, List.filter_cons_of_neg (by simp [blank]),
      List.filter_append, first, ih]
    rfl

theorem separatedHeads {blocks : List (List Line)} {names : List String}
    (each : List.Forall₂ (fun block name => block.filter isRelationshipHead = [relationshipHead name]) blocks names) :
    (separated blocks).filter isRelationshipHead = names.map relationshipHead := by
  cases each with
  | nil => rfl
  | cons first rest =>
    rw [separatedCons, List.filter_append, first, spacedHeads rest]
    rfl

theorem headsNamed (rs : List Relationship) : (separated (relationshipBlocks rs)).filter isRelationshipHead =
    (relationshipNames rs).map relationshipHead := by
  refine separatedHeads ?_
  have named := relationshipNamesFrom rs
  unfold relationshipBlocks
  generalize relationshipNames rs = names at named ⊢
  induction named with
  | nil => exact .nil
  | cons _ _ ih => exact .cons (relationshipLinesHead _ _) ih

theorem outlineNames (rs : List Relationship) : (relationshipOutlines rs).map (·.name) = relationshipNames rs := by
  have count := (relationshipNamesFrom rs).length_eq.symm
  rw [relationshipOutlines, List.map_zipWith]
  exact (zipWithLeft count id).trans (List.map_id _)

theorem namesRead {rs : List Relationship} (flat : ∀ r ∈ rs, FlatEndpoints r) :
    ∃ d, read (relationshipText rs) = .ok d ∧ d.relationships.map (·.name) = relationshipNames rs := by
  have reads : Reads 0 readItem (separated (relationshipBlocks rs))
      ((relationshipOutlines rs).map fun r => [Item.relationship r]).flatten :=
    .separated (List.forall₂_map_right_iff.mpr (relationshipBlocksRead flat))
  refine ⟨_, readRendered reads, ?_⟩
  rw [singlesFlatten, ← outlineNames]
  simp [outline, List.filterMap_map]

theorem relationshipNamesDistinct (rs : List Relationship) : RelationshipsNamed rs (relationshipNames rs) ∧
    (separated (relationshipBlocks rs)).filter isRelationshipHead = (relationshipNames rs).map relationshipHead ∧
    ((∀ r ∈ rs, FlatEndpoints r) →
      ∃ d, read (relationshipText rs) = .ok d ∧ d.relationships.map (·.name) = relationshipNames rs) :=
  ⟨relationshipsNamed rs, headsNamed rs, namesRead⟩

def tangled : List Relationship :=
  [{ fromTable := "A", fromColumn := "x", toTable := "B.y", toColumn := "z" },
    { fromTable := "A", fromColumn := "x", toTable := "B", toColumn := "y.z \x232" },
    { fromTable := "A", fromColumn := "x", toTable := "B", toColumn := "y.z" },
    { fromTable := "A.x -> B\r", fromColumn := "", toTable := "\t'", toColumn := " ", isActive := false }]

theorem tangledDistinct : (∀ r ∈ tangled, FlatEndpoints r) ∧ relationshipNames tangled = ["A.x -> B.y.z",
      "A.x -> B.y.z \x232", "A.x -> B.y.z \x233", "A.x -> B\r. -> \t'. "] ∧
    ∃ d, read (relationshipText tangled) = .ok d ∧ d.relationships.map (·.name) = relationshipNames tangled := by
  have flat : ∀ r ∈ tangled, FlatEndpoints r := by
    simp only [tangled, List.forall_mem_cons]
    exact ⟨⟨by decide, by decide, by decide, by decide⟩, ⟨by decide, by decide, by decide, by decide⟩,
      ⟨by decide, by decide, by decide, by decide⟩, ⟨by decide, by decide, by decide, by decide⟩, by simp⟩
  exact ⟨flat, by decide +kernel, (relationshipNamesDistinct tangled).2.2 flat⟩

end Tabular.Definition

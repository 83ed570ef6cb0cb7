import Tabular.Proofs.Definition.Document
import Tabular.Proofs.Definition.FileName
import Tabular.Proofs.Storage.Path

/-! Where the files of a definition go: each along a path of names of its own, below a folder that is named
after the model. -/
namespace Tabular.Storage
open Definition
open Tabular.Storage.Path (IsName)

theorem endsName {s : String} (filled : s.toList ≠ []) (dotless : s.toList.getLast? ≠ some '.') : IsName s := by
  constructor
  · have shown : s ≠ "" := by
      rintro rfl
      exact filled rfl
    have other : s ≠ "." := by
      rintro rfl
      exact dotless rfl
    simp [Path.leadsNowhere, shown, other]
  · rintro rfl
    exact dotless rfl

theorem stemName {s : String} (stem : Stem s.toList) : IsName s :=
  endsName stem.filled fun last => stem.dotless '.' last rfl

theorem taggedName (s : String) {tag : String} (filled : tag.toList ≠ [])
    (dotless : tag.toList.getLast? ≠ some '.') : IsName (s ++ tag) := by
  refine endsName (by simp [filled]) fun last => dotless ?_
  rwa [String.toList_append, List.getLast?_append, List.getLast?_eq_some_getLast filled, Option.some_or,
    ← List.getLast?_eq_some_getLast filled] at last

theorem stemSlashless {s : String} (tag : String) (stem : Stem s.toList) (flat : '/' ∉ tag.toList) :
    '/' ∉ (s ++ tag).toList := by
  rw [String.toList_append, List.mem_append, not_or]
  refine ⟨fun member => ?_, flat⟩
  have allowed := stem.allowed '/' member
  revert allowed
  decide

def stemPath (folder : String) (stem : String) : Path := ["definition", folder, stem ++ ".tmdl"]

def singlePath (name : String) (blocks : List (List Line)) : List Path :=
  if blocks = [] then [] else [["definition", name]]

def definitionPaths (m : Model) : List Path :=
  [["definition", "database.tmdl"], ["definition", "model.tmdl"]]
    ++ (uniqueStems (m.tables.map (·.name))).map (stemPath "tables")
    ++ singlePath "relationships.tmdl" (relationshipBlocks m.relationships)
    ++ singlePath "hierarchies.tmdl" (m.hierarchies.map hierarchyLines)
    ++ (uniqueStems (m.roles.map (·.name))).map (stemPath "roles")

theorem stemPaths {α : Type} (folder : String) (name : α → String) (xs : List α) (contents : α → String)
    (flat : '/' ∉ folder.toList) :
    (List.zipWith (fun stem x => (⟨"definition/" ++ folder ++ "/" ++ stem ++ ".tmdl", contents x⟩ : File))
      (uniqueStems (xs.map name)) xs).map (fun f => Path.ofText f.path) =
    (uniqueStems (xs.map name)).map (stemPath folder) := by
  have same := uniqueStemsLength (xs.map name)
  rw [List.length_map] at same
  rw [List.map_zipWith, zipWithLeft same fun stem =>
    Path.ofText ("definition/" ++ folder ++ "/" ++ stem ++ ".tmdl")]
  refine List.map_congr_left fun stem member => ?_
  have shown : "definition/" ++ folder ++ "/" ++ stem ++ ".tmdl" = (stemPath folder stem).text := by
    simp [stemPath, Path.text, String.intercalate_cons_cons, String.append_assoc]
  rw [shown]
  refine Path.ofTextText ?_ ?_
  · rw [← shown]
    intro empty
    have none := congrArg String.toList empty
    simp at none
  · have last := stemSlashless ".tmdl" (uniqueStemsStem _ stem member) (by decide)
    simp only [stemPath, List.forall_mem_cons]
    exact ⟨by decide, flat, last, by simp⟩

theorem singlePaths (name path : String) (blocks : List (List Line))
    (split : Path.ofText path = ["definition", name]) :
    (file? path blocks).map (fun f => Path.ofText f.path) = singlePath name blocks := by
  cases blocks <;> simp [file?, singlePath, split]

theorem filePaths (m : Model) (o : Options) :
    (files m o).map (fun f => Path.ofText f.path) = definitionPaths m := by
  have tables := stemPaths "tables" (·.name) m.tables
    (fun t => render (tableLines t o)) (by decide)
  have roles := stemPaths "roles" (·.name) m.roles
    (fun r => render (roleLines r)) (by decide)
  have relationships := singlePaths "relationships.tmdl" "definition/relationships.tmdl"
    (relationshipBlocks m.relationships) (by decide)
  have hierarchies := singlePaths "hierarchies.tmdl" "definition/hierarchies.tmdl"
    (m.hierarchies.map hierarchyLines) (by decide)
  have first : [Path.ofText "definition/database.tmdl", Path.ofText "definition/model.tmdl"] =
      [["definition", "database.tmdl"], ["definition", "model.tmdl"]] := by decide
  simp only [files, List.map_append, relationships, hierarchies, definitionPaths]
  rw [← tables, ← roles, ← first]
  rfl

theorem stemPathApart {folder a b : String} (same : stemPath folder a = stemPath folder b) : a = b := by
  simp only [stemPath, List.cons.injEq, and_true, true_and] at same
  have chars := congrArg String.toList same
  rw [String.toList_append, String.toList_append] at chars
  exact String.toList_inj.mp (List.append_cancel_right chars)

theorem singlePathMem {name : String} {blocks : List (List Line)} {p : Path}
    (member : p ∈ singlePath name blocks) : p = ["definition", name] := by
  unfold singlePath at member
  split at member
  · cases member
  · exact List.mem_singleton.mp member

theorem singlePathNodup (name : String) (blocks : List (List Line)) : (singlePath name blocks).Nodup := by
  unfold singlePath
  split <;> simp

theorem definitionPathsNodup (m : Model) : (definitionPaths m).Nodup := by
  have stems (folder : String) (names : List String) : ((uniqueStems names).map (stemPath folder)).Nodup :=
    (uniqueStemsNodup names).map fun _ _ => stemPathApart
  unfold definitionPaths
  simp only [List.nodup_append, stems, singlePathNodup, List.mem_append, true_and]
  refine ⟨⟨⟨⟨by simp, ?_⟩, ?_⟩, ?_⟩, ?_⟩
  · intro p first q table
    obtain ⟨stem, _, rfl⟩ := List.mem_map.mp table
    rintro rfl
    simp [stemPath] at first
  · rintro p (first | table) q single
    · rw [singlePathMem single]
      rintro rfl
      simp at first
    · obtain ⟨stem, _, rfl⟩ := List.mem_map.mp table
      rw [singlePathMem single]
      simp [stemPath]
  · rintro p ((first | table) | single) q single'
    · rw [singlePathMem single']
      rintro rfl
      simp at first
    · obtain ⟨stem, _, rfl⟩ := List.mem_map.mp table
      rw [singlePathMem single']
      simp [stemPath]
    · rw [singlePathMem single, singlePathMem single']
      decide
  · rintro p (((first | table) | single) | single) q role
    all_goals obtain ⟨stem, _, rfl⟩ := List.mem_map.mp role
    · rintro rfl
      simp [stemPath] at first
    · obtain ⟨stem', _, rfl⟩ := List.mem_map.mp table
      simp [stemPath]
    · rw [singlePathMem single]
      simp [stemPath]
    · rw [singlePathMem single]
      simp [stemPath]

def Named (p : Path) : Prop := p ≠ [] ∧ ∀ s ∈ p, IsName s

theorem namedCons {s : String} (name : IsName s) {p : Path} (later : ∀ t ∈ p, IsName t) : Named (s :: p) :=
  ⟨by simp, List.forall_mem_cons.mpr ⟨name, later⟩⟩

theorem definitionPathsInside (m : Model) :
    ∀ p ∈ definitionPaths m, ∃ rest, p = "definition" :: rest ∧ Named rest := by
  have tmdl (stem : String) : Named [stem ++ ".tmdl"] :=
    namedCons (taggedName stem (by decide) (by decide)) (by simp)
  have stems {folder : String} (name : IsName folder) (names : List String) :
      ∀ p ∈ (uniqueStems names).map (stemPath folder), ∃ rest, p = "definition" :: rest ∧ Named rest := by
    intro p member
    obtain ⟨stem, _, rfl⟩ := List.mem_map.mp member
    exact ⟨_, rfl, namedCons name (tmdl stem).2⟩
  intro p member
  simp only [definitionPaths, List.mem_append, List.mem_cons, List.not_mem_nil, or_false] at member
  rcases member with ((((rfl | rfl) | table) | relationship) | hierarchy) | role
  · exact ⟨_, rfl, tmdl "database"⟩
  · exact ⟨_, rfl, tmdl "model"⟩
  · exact stems ⟨by decide, by decide⟩ _ p table
  · exact ⟨_, singlePathMem relationship, tmdl "relationships"⟩
  · exact ⟨_, singlePathMem hierarchy, tmdl "hierarchies"⟩
  · exact stems ⟨by decide, by decide⟩ _ p role

structure Laid (a : Artifacts) : Prop where
  slug : IsName a.slug
  folder : IsName a.definitionFolder
  first : ∃ f rest s, a.files = f :: rest ∧ Path.ofText f.path = [s]
  apart : (a.files.map fun f => Path.ofText f.path).Nodup
  named : ∀ f ∈ a.files, Named (Path.ofText f.path)

theorem markerPath : Path.ofText markerFile.path = ["definition.pbism"] := by decide

theorem compiledPaths {m : Model} {o : Options} {a : Artifacts} (done : compile m o = .ok a) :
    a.files.map (fun f => Path.ofText f.path) = ["definition.pbism"] :: definitionPaths m := by
  rw [(compiledParts done).2, List.map_cons, filePaths, markerPath]

theorem compiledLaid {m : Model} {o : Options} {a : Artifacts} (done : compile m o = .ok a) : Laid a := by
  have paths := compiledPaths done
  have named : ∀ p ∈ ["definition.pbism"] :: definitionPaths m, Named p := by
    refine List.forall_mem_cons.mpr ⟨namedCons ⟨by decide, by decide⟩ (by simp), fun p member => ?_⟩
    obtain ⟨rest, rfl, inside⟩ := definitionPathsInside m p member
    exact namedCons ⟨by decide, by decide⟩ inside.2
  refine ⟨?_, taggedName a.slug (by decide) (by decide),
    ⟨markerFile, _, _, (compiledParts done).2, markerPath⟩, ?_, fun f member => ?_⟩
  · have stem := stemCharsStem m.name.toList
    rw [(compiledParts done).1]
    exact stemName (by simpa [fileStem] using stem)
  · rw [paths, List.nodup_cons]
    refine ⟨fun member => ?_, definitionPathsNodup m⟩
    obtain ⟨rest, same, _⟩ := definitionPathsInside m _ member
    simp at same
  · exact named _ (paths ▸ List.mem_map_of_mem member)

end Tabular.Storage

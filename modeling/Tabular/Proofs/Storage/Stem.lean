import Tabular.Proofs.Storage.Layout

/-! File stems as names of files and folders. A stem, with or without a tag behind it, is one segment of a path and
nothing that a platform refuses in one. Whether it may end in a blank, and so be another one's stem, hangs on how its
name ends. Stems are told apart in lower case before their extension follows them, which is enough unless one of two
stems ends in a capital sigma: the extension then takes its final form away. -/
namespace Tabular.Storage
open Definition Unicode Text Validation

/-- The tag is what follows in the name of a file or a folder, nothing at all included. -/
structure Portable (s : String) : Prop where
  stem : Stem s.toList
  segment : ∀ tag : String, '/' ∉ tag.toList → tag.toList.getLast? ≠ some '.' →
    Path.ofText (s ++ tag) = [s ++ tag] ∧ Path.IsName (s ++ tag)

theorem portableStem {s : String} (stem : Stem s.toList) : Portable s := by
  refine ⟨stem, fun tag flat dotless => ?_⟩
  have name : Path.IsName (s ++ tag) := by
    by_cases empty : tag.toList = []
    · have none : tag = "" := by simpa using empty
      rw [none, String.append_empty]
      exact stemName stem
    · exact taggedName s empty dotless
  exact ⟨Path.ofTextName name (stemSlashless tag stem flat), name⟩

theorem stemsPortable (name : String) : Portable (fileStem name) ∧
    (EndsFilled (fileStem name).toList ↔ ¬ DotsBehindBlank name.toList) ∧
    (fileStem (fileStem name) = fileStem name ↔ ¬ DotsBehindBlank name.toList) := by
  have chars : (fileStem name).toList = stemChars name.toList := String.toList_ofList
  have stem : Stem (fileStem name).toList := by
    rw [chars]
    exact stemCharsStem name.toList
  have ends : EndsFilled (fileStem name).toList ↔ ¬ DotsBehindBlank name.toList := by
    rw [chars]
    exact stemEnds name.toList
  have twice : fileStem (fileStem name) = fileStem name ↔ EndsFilled (fileStem name).toList := by
    rw [← stemFixed stem, fileStem, ← String.toList_inj, String.toList_ofList]
  exact ⟨portableStem stem, ends, twice.trans ends⟩

theorem blankLeftBehind : fileStem "a ." = "a " ∧ ¬ EndsFilled (fileStem "a .").toList ∧
    fileStem (fileStem "a .") = "a" := by
  refine ⟨by decide, fun ends => ?_, by decide⟩
  have filled := ends ' ' (by decide)
  revert filled
  decide

structure StemsClaimed (names stems : List String) : Prop where
  spelled : List.Forall₂ (fun name stem => stem = fileStem name ∨
    ∃ n ≥ 2, stem = fileStem name ++ "_" ++ toString n) names stems
  searched : ClaimedInOrder (fun s : String => lower s.toList) (fun name k => String.ofList (stemCandidate name k))
    names stems
  apart : (stems.map fun s => lower s.toList).Nodup

theorem candidateSpelled (name : String) (k : Nat) : String.ofList (stemCandidate name k) = fileStem name ∨
    ∃ n ≥ 2, String.ofList (stemCandidate name k) = fileStem name ++ "_" ++ toString n := by
  cases k with
  | zero => exact .inl rfl
  | succ k =>
    refine .inr ⟨k + 2, by omega, ?_⟩
    rw [← String.toList_inj, Nat.toString_eq_ofList_toDigits]
    simp [stemCandidate, fileStem, decimal]

theorem stemsClaimed (names : List String) : StemsClaimed names (uniqueStems names) := by
  refine ⟨?_, fun i name claimer => ?_, uniqueStemsApart names⟩
  · have candidates : List.Forall₂ (fun name chars => ∃ k, chars = stemCandidate name k) names
        (claimAll lower stemCandidate [] names) := claimAllCandidates ..
    rw [uniqueStems, List.forall₂_map_right_iff]
    refine candidates.imp ?_
    rintro name _ ⟨k, rfl⟩
    exact candidateSpelled name k
  · obtain ⟨k, few, found, passed, free⟩ := claimedInOrder stemKeysApart names i name claimer
    have keys : ((uniqueStems names).take i).map (fun s => lower s.toList) =
        ((claimAll lower stemCandidate [] names).take i).map lower := by
      rw [uniqueStems, ← List.map_take, List.map_map]
      exact List.map_congr_left fun chars _ => by simp
    refine ⟨k, few, by rw [uniqueStems, List.getElem?_map, found]; rfl, ?_, ?_⟩
    · simpa [keys] using passed
    · simpa [keys] using free

/-- Two stems of one folder that lower case tells apart by themselves; just one ends in a capital sigma. -/
def SigmaTwins (p q : String) : Prop := ∃ folder s t : String, p = folder ++ s ++ ".tmdl" ∧
  q = folder ++ t ++ ".tmdl" ∧ lower s.toList ≠ lower t.toList ∧ endsInSigma s.toList ≠ endsInSigma t.toList

def fixedPaths : List Path := [["definition.pbism"], ["definition", "database.tmdl"], ["definition", "model.tmdl"],
  ["definition", "relationships.tmdl"], ["definition", "hierarchies.tmdl"]]

def stemFolders (m : Model) : List (String × List String) :=
  [("tables", m.tables.map (·.name)), ("roles", m.roles.map (·.name))]

theorem pathKinds {m : Model} {p : Path} (member : p ∈ ["definition.pbism"] :: definitionPaths m) :
    p ∈ fixedPaths ∨ ∃ folder ∈ stemFolders m, ∃ s ∈ uniqueStems folder.2, p = stemPath folder.1 s := by
  simp only [definitionPaths, List.mem_cons, List.mem_append, List.not_mem_nil, or_false, List.mem_map] at member
  rcases member with rfl | ((((rfl | rfl) | ⟨s, claimed, rfl⟩) | single) | single) | ⟨s, claimed, rfl⟩
  · exact .inl (by simp [fixedPaths])
  · exact .inl (by simp [fixedPaths])
  · exact .inl (by simp [fixedPaths])
  · exact .inr ⟨_, List.mem_cons_self, s, claimed, rfl⟩
  · exact .inl (by simp [fixedPaths, singlePathMem single])
  · exact .inl (by simp [fixedPaths, singlePathMem single])
  · exact .inr ⟨_, List.mem_cons_of_mem _ List.mem_cons_self, s, claimed, rfl⟩

def opening (chars : List Char) : List Char := chars.take 13

def folderText (folder : String) : List Char := "definition/".toList ++ folder.toList

theorem fixedOpening : ∀ p ∈ fixedPaths, ∀ q ∈ fixedPaths,
    opening (lower p.text.toList) = opening (lower q.text.toList) → p = q := by decide +kernel

theorem folderOpening : ∀ p ∈ fixedPaths, ∀ folder ∈ ["tables", "roles"],
    opening (lower p.text.toList) ≠ opening (lower (folderText folder)) := by decide +kernel

theorem stemPathText (folder s : String) :
    (stemPath folder s).text = "definition/" ++ folder ++ "/" ++ s ++ ".tmdl" := by
  simp [stemPath, Path.text, String.intercalate_cons_cons, String.append_assoc]

theorem lowerStemPath (folder s : String) : lower (stemPath folder s).text.toList =
    lower (folderText folder) ++ '/' :: lower (s.toList ++ ".tmdl".toList) := by
  have slash : lowerChar '/' = ['/'] := by decide
  have whole : (stemPath folder s).text.toList = folderText folder ++ '/' :: (s.toList ++ ".tmdl".toList) := by
    rw [stemPathText]
    unfold folderText
    simp
  rw [whole, lowerDivided ⟨by decide, by decide⟩, slash]
  rfl

theorem foldersApart {m : Model} {f g : String × List String} (left : f ∈ stemFolders m) (right : g ∈ stemFolders m)
    (same : opening (lower (folderText f.1)) = opening (lower (folderText g.1))) : f = g := by
  have apart : opening (lower (folderText "tables")) ≠ opening (lower (folderText "roles")) := by decide +kernel
  simp only [stemFolders, List.mem_cons, List.not_mem_nil, or_false] at left right
  rcases left with rfl | rfl <;> rcases right with rfl | rfl
  · rfl
  · exact absurd same apart
  · exact absurd same.symm apart
  · rfl

theorem stemOpening {folder : String} (known : folder ∈ ["tables", "roles"]) (s : String) :
    opening (lower (stemPath folder s).text.toList) = opening (lower (folderText folder)) := by
  have long : ∀ folder ∈ ["tables", "roles"], 13 ≤ (lower (folderText folder)).length := by decide +kernel
  rw [lowerStemPath, opening, List.take_append_of_le_length (long folder known)]
  rfl

theorem stemPathsMeet {folder s t : String} (apart : lower s.toList ≠ lower t.toList)
    (same : lower (stemPath folder s).text.toList = lower (stemPath folder t).text.toList) :
    SigmaTwins (stemPath folder s).text (stemPath folder t).text := by
  have fixed (before : List Char) : lowerAfter before ".tmdl".toList = ".tmdl".toList := by rfl
  rw [lowerStemPath, lowerStemPath] at same
  have files := (List.cons.inj (List.append_cancel_left same)).2
  exact ⟨"definition/" ++ folder ++ "/", s, t, stemPathText folder s, stemPathText folder t, apart,
    lowerMeets fixed (by decide +kernel) apart files⟩

theorem pathsMeet {m : Model} {p q : Path} (left : p ∈ ["definition.pbism"] :: definitionPaths m)
    (right : q ∈ ["definition.pbism"] :: definitionPaths m) (other : p ≠ q)
    (same : lower p.text.toList = lower q.text.toList) : SigmaTwins p.text q.text := by
  have known {folder : String × List String} (member : folder ∈ stemFolders m) :
      folder.1 ∈ ["tables", "roles"] := by
    have names := List.mem_map_of_mem (f := Prod.fst) member
    exact names
  have openings := congrArg opening same
  rcases pathKinds left with single | ⟨folder, inside, s, claimed, rfl⟩
  · rcases pathKinds right with single' | ⟨folder', inside', s', claimed', rfl⟩
    · exact absurd (fixedOpening p single q single' openings) other
    · rw [stemOpening (known inside')] at openings
      exact absurd openings (folderOpening p single folder'.1 (known inside'))
  · rcases pathKinds right with single' | ⟨folder', inside', s', claimed', rfl⟩
    · rw [stemOpening (known inside)] at openings
      exact absurd openings.symm (folderOpening q single' folder.1 (known inside))
    · rw [stemOpening (known inside), stemOpening (known inside')] at openings
      have folders := foldersApart inside inside' openings
      subst folders
      refine stemPathsMeet (fun clash => other ?_) same
      have stems := List.inj_on_of_nodup_map (uniqueStemsApart folder.2) claimed claimed' clash
      rw [stems]

theorem pathsApart (names : List String) (m : Model) (o : Options) :
    StemsClaimed names (uniqueStems names) ∧ ∀ a, compile m o = .ok a →
      (a.files.map (·.path)).Nodup ∧ (a.files.map (·.path)).Pairwise fun p q =>
        lower p.toList = lower q.toList → SigmaTwins p q := by
  refine ⟨stemsClaimed names, fun a done => ?_⟩
  have texts : a.files.map (·.path) = (["definition.pbism"] :: definitionPaths m).map Path.text := by
    rw [← compiledPaths done, List.map_map]
    exact List.map_congr_left fun f _ => (Path.textOfText f.path).symm
  have apart : (["definition.pbism"] :: definitionPaths m).Nodup := by
    rw [← compiledPaths done]
    exact (compiledLaid done).apart
  refine ⟨List.Nodup.of_map Path.ofText ?_, ?_⟩
  · rw [List.map_map]
    exact (compiledLaid done).apart
  · rw [texts, List.pairwise_map]
    exact apart.pairwise_of_forall_ne fun p left q right other same => pathsMeet left right other same

def crossed : Model where
  name := "Shop"
  tables := [{ name := "a/" }, { name := "A:" }, { name := "a__2" }, { name := "a_" }]
  roles := [{ name := "a\u03A3." }, { name := "A\u03A3" }]

theorem crossedApart : ∃ a, compile crossed {} = .ok a ∧ a.files.map (·.path) = ["definition.pbism",
      "definition/database.tmdl", "definition/model.tmdl", "definition/tables/a_.tmdl",
      "definition/tables/A__2.tmdl", "definition/tables/a__2_2.tmdl", "definition/tables/a__3.tmdl",
      "definition/roles/a\u03A3.tmdl", "definition/roles/A\u03A3_2.tmdl"] ∧
    (a.files.map (·.path)).Nodup ∧ (a.files.map (·.path)).Pairwise fun p q =>
      lower p.toList = lower q.toList → SigmaTwins p q := by
  have accepted : validate crossed = .ok [.noColumns "a/", .noColumns "A:", .noColumns "a__2", .noColumns "a_"] := by
    decide
  obtain ⟨a, done⟩ := validatedCompiles {} accepted
  refine ⟨a, done, ?_, (pathsApart (crossed.tables.map (·.name)) crossed {}).2 a done⟩
  rw [(compiledParts done).2]
  decide +kernel

def sigmas : Model where
  name := "Shop"
  tables := [{ name := "a\u03A3", columns := [{ name := "Key" }] },
    { name := "a\u03C3", columns := [{ name := "Key" }] }]

theorem sigmasMeet : ∃ a, compile sigmas {} = .ok a ∧ a.files.map (·.path) = ["definition.pbism",
      "definition/database.tmdl", "definition/model.tmdl", "definition/tables/a\u03A3.tmdl",
      "definition/tables/a\u03C3.tmdl"] ∧
    ¬ (a.files.map fun f => lower f.path.toList).Nodup := by
  have accepted : validate sigmas = .ok [] := by decide
  obtain ⟨a, done⟩ := validatedCompiles {} accepted
  have paths : a.files.map (·.path) = ["definition.pbism", "definition/database.tmdl", "definition/model.tmdl",
      "definition/tables/a\u03A3.tmdl", "definition/tables/a\u03C3.tmdl"] := by
    rw [(compiledParts done).2]
    decide +kernel
  have clash : ¬ (["definition.pbism", "definition/database.tmdl", "definition/model.tmdl",
      "definition/tables/a\u03A3.tmdl", "definition/tables/a\u03C3.tmdl"].map fun p => lower p.toList).Nodup := by
    decide +kernel
  refine ⟨a, done, paths, fun distinct => clash ?_⟩
  rw [← paths, List.map_map]
  exact distinct

end Tabular.Storage

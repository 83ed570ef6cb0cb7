import Tabular.Proofs.Definition.Shuffled
import Tabular.Proofs.Storage.Listing
import Tabular.Proofs.Storage.Output

/-! Reading a definition back from the folder it was written to. The files are found in another order than
they were written in, and the first one is not looked for. -/
namespace Tabular.Storage
open Definition
open Tabular.Storage.Path (IsName)
open Validation (hasControl hasControlPlain)
open Disk (Fits Passes)

theorem stemExtension {stem : String} (filled : stem.toList ≠ []) :
    Path.extension? [stem ++ ".tmdl"] = some "tmdl" := by
  obtain ⟨front, c, last⟩ := (List.eq_nil_or_concat' stem.toList).resolve_left filled
  have tag : ".tmdl".toList = ['.', 't', 'm', 'd', 'l'] := by decide
  have notUp : stem ++ ".tmdl" ≠ ".." := fun same => by
    have long := congrArg (·.toList.length) same
    simp [last] at long
  have word : String.ofList ['t', 'm', 'd', 'l'] = "tmdl" := by decide
  simp [Path.extension?, Path.trimmed, Path.dropEnd, last, tag, notUp, word]

theorem joinBelow (p : Path) {q : Path} (names : ∀ s ∈ q, IsName s) (filled : q ≠ []) (r : Path) :
    (p ++ q).join r = p ++ q ++ r := by
  obtain ⟨front, s, rfl⟩ := (List.eq_nil_or_concat' q).resolve_left filled
  have name : IsName s := names s (by simp)
  have notEmpty : s ≠ "" := by
    rintro rfl
    exact absurd name.leads (by decide)
  rw [Path.join, if_neg]
  simp [← List.append_assoc, notEmpty]

section Stems
variable {d : Disk} {p q : Path} {fs : List Write} (holding : Holding p fs d) (names : ∀ s ∈ q, IsName s)
  (filled : q ≠ []) {stems : List String} (stem : ∀ s ∈ stems, Stem s.toList) (distinct : stems.Nodup)
  (only : ∀ r, q ++ r ∈ paths fs ↔ ∃ s ∈ stems, [s ++ ".tmdl"] = r)
include holding names filled stem distinct only

theorem stemsYield : ∃ ps, d.Yields (definitionFilesIn (p ++ q)) ps ∧
    ps.Perm (stems.map fun s => p ++ q ++ [s ++ ".tmdl"]) := by
  have known := holding.directory names filled
  by_cases there : d.kind? (p ++ q) = some .directory
  · obtain ⟨ns, found, nodup, listed⟩ := holding.listed names filled there
    have members (n : String) : n ∈ ns ↔ n ∈ stems.map (· ++ ".tmdl") := by
      rw [listed, List.mem_map]
      constructor
      · rintro ⟨_, member, rest, rfl⟩
        obtain ⟨s, mem, same⟩ := (only (n :: rest)).mp (by simpa using member)
        exact ⟨s, mem, (List.cons.inj same).1⟩
      · rintro ⟨s, mem, rfl⟩
        exact ⟨_, (only _).mpr ⟨s, mem, rfl⟩, List.prefix_refl _⟩
    have suffixed : (stems.map (· ++ ".tmdl")).Nodup :=
      distinct.map fun a b same => stemPathApart (show stemPath "" a = stemPath "" b by rw [stemPath, same]; rfl)
    have kept : ns.filter (fun n => Path.extension? [n] = some "tmdl") = ns := by
      refine List.filter_eq_self.mpr fun n member => ?_
      obtain ⟨s, mem, rfl⟩ := List.mem_map.mp ((members n).mp member)
      exact decide_eq_true (stemExtension (stem s mem).filled)
    have perm : ns.Perm (stems.map (· ++ ".tmdl")) := (List.perm_ext_iff_of_nodup nodup suffixed).mpr members
    refine ⟨_, filesYield there found, ?_⟩
    rw [kept]
    refine (((List.mergeSort_perm ns _).trans perm).map _).trans ?_
    simp only [List.map_map, Function.comp_def, joinBelow p names filled]
    exact .refl _
  · have none : stems = [] := by
      refine List.eq_nil_iff_forall_not_mem.mpr fun s mem => there (known.mpr ?_)
      exact ⟨_, (only _).mpr ⟨s, mem, rfl⟩, List.prefix_append .., by simp⟩
    subst none
    exact ⟨[], noFilesYield there, .nil⟩

end Stems

section Paths
variable {m : Model} {r : Path}

theorem tablePath : ["definition", "tables"] ++ r ∈ ["definition.pbism"] :: definitionPaths m ↔
    ∃ s ∈ uniqueStems (m.tables.map (·.name)), [s ++ ".tmdl"] = r := by
  simp [definitionPaths, stemPath, singlePath]

theorem rolePath : ["definition", "roles"] ++ r ∈ ["definition.pbism"] :: definitionPaths m ↔
    ∃ s ∈ uniqueStems (m.roles.map (·.name)), [s ++ ".tmdl"] = r := by
  simp [definitionPaths, stemPath, singlePath]

theorem relationshipsPath : ["definition", "relationships.tmdl"] ∈ ["definition.pbism"] :: definitionPaths m ↔
    relationshipBlocks m.relationships ≠ [] := by
  simp [definitionPaths, stemPath, singlePath]

theorem hierarchiesPath : ["definition", "hierarchies.tmdl"] ∈ ["definition.pbism"] :: definitionPaths m ↔
    m.hierarchies.map hierarchyLines ≠ [] := by
  simp [definitionPaths, stemPath, singlePath]

theorem noInner : ∀ q ∈ ["definition.pbism"] :: definitionPaths m, ¬ ["definition", "definition"] <+: q := by
  simp only [definitionPaths, List.forall_mem_cons, List.forall_mem_append, List.forall_mem_map]
  refine ⟨by decide, ⟨⟨⟨by decide, ?_⟩, ?_⟩, ?_⟩, ?_⟩
  · simp [stemPath]
  · intro q member
    rw [singlePathMem member]
    decide
  · intro q member
    rw [singlePathMem member]
    decide
  · simp [stemPath]

end Paths

theorem definitionName : IsName "definition" := ⟨by decide, by decide⟩

theorem definitionJoin (p q : Path) : (p ++ ["definition"]).join q = p ++ "definition" :: q := by
  rw [joinBelow p (by simpa using definitionName) (by simp), List.append_assoc]
  rfl

section Definition
variable {d : Disk} {p : Path} {fs : List Write} {m : Model} (holding : Holding p fs d)
  (known : paths fs = ["definition.pbism"] :: definitionPaths m)
include holding known

theorem singleFound (name : String) {blocks : List (List Line)} (isName : IsName name)
    (there : ["definition", name] ∈ ["definition.pbism"] :: definitionPaths m ↔ blocks ≠ []) :
    ([[name]].filter fun n => decide (d.kind? ((p ++ ["definition"]).join n) = some .file)).map
      (p ++ ["definition"]).join = (singlePath name blocks).map (p ++ ·) := by
  have names : ∀ s ∈ ["definition", name], IsName s := by
    simpa using ⟨definitionName, isName⟩
  have file := holding.file names (by simp)
  rw [known, there] at file
  by_cases empty : blocks = []
  · simp [singlePath, definitionJoin, file, empty]
  · simp [singlePath, definitionJoin, file, empty]

theorem rootChosen (below : ∀ q, p.join q = p ++ q) {start : Path}
    (place : start = p ∨ start = p ++ ["definition"]) :
    (if d.kind? (start.join ["definition"]) = some .directory then start.join ["definition"] else start) =
      p ++ ["definition"] := by
  have root : d.kind? (p ++ ["definition"]) = some .directory := by
    rw [holding.directory (by simpa using definitionName) (by simp), known]
    exact ⟨["definition", "model.tmdl"], by simp [definitionPaths], by simp, by simp⟩
  have inner : d.kind? (p ++ ["definition", "definition"]) ≠ some .directory := by
    rw [Ne, holding.directory (by simpa using definitionName) (by simp), known]
    rintro ⟨q, member, front, _⟩
    exact noInner q member front
  rcases place with rfl | rfl
  · rw [below, if_pos root]
  · rw [definitionJoin, if_neg inner]

theorem definitionYields (below : ∀ q, p.join q = p ++ q) {start : Path}
    (place : start = p ∨ start = p ++ ["definition"]) :
    ∃ ps, d.Yields (folderFiles start) ps ∧ ps.Perm ((definitionPaths m).tail.map (p ++ ·)) := by
  have chosen := rootChosen holding known below place
  have folder {s : String} (name : IsName s) : ∀ t ∈ ["definition", s], IsName t := by
    simpa using ⟨definitionName, name⟩
  obtain ⟨tables, first, tablesPerm⟩ :=
    stemsYield holding (folder (s := "tables") ⟨by decide, by decide⟩) (by simp)
      (uniqueStemsStem _) (uniqueStemsNodup _) fun r => known ▸ tablePath
  obtain ⟨roles, last, rolesPerm⟩ :=
    stemsYield holding (folder (s := "roles") ⟨by decide, by decide⟩) (by simp)
      (uniqueStemsStem _) (uniqueStemsNodup _) fun r => known ▸ rolePath
  have relationships := singleFound holding known "relationships.tmdl" ⟨by decide, by decide⟩ relationshipsPath
  have hierarchies := singleFound holding known "hierarchies.tmdl" ⟨by decide, by decide⟩ hierarchiesPath
  refine ⟨_, folderYields chosen (by rwa [definitionJoin]) (by rwa [definitionJoin]), ?_⟩
  have both : [["relationships.tmdl"], ["hierarchies.tmdl"]] =
      [["relationships.tmdl"]] ++ [["hierarchies.tmdl"]] := rfl
  have tail : (definitionPaths m).tail = [["definition", "model.tmdl"]]
      ++ (uniqueStems (m.tables.map (·.name))).map (stemPath "tables")
      ++ (singlePath "relationships.tmdl" (relationshipBlocks m.relationships)
        ++ singlePath "hierarchies.tmdl" (m.hierarchies.map hierarchyLines))
      ++ (uniqueStems (m.roles.map (·.name))).map (stemPath "roles") := by
    simp [definitionPaths]
  rw [both, List.filter_append, List.map_append, relationships, hierarchies, tail]
  simp only [List.map_append, List.map_map]
  refine (((List.Perm.of_eq ?_).append (tablesPerm.trans (.of_eq ?_))).append (.refl _)).append
    (rolesPerm.trans (.of_eq ?_))
  · rw [definitionJoin]
    rfl
  · exact List.map_congr_left fun s _ => by simp [stemPath]
  · exact List.map_congr_left fun s _ => by simp [stemPath]

end Definition

def Beside (out : Path) (a : Artifacts) : Prop := ∀ r : Path, r <+: out → ¬ folderPlace out a <+: r.place

def folderWrites (a : Artifacts) : List Write := a.files.map fun f => (Path.ofText f.path, f.contents)

theorem belowFolder {out : Path} {a : Artifacts} (beside : Beside out a) {r rest : Path}
    (names : ∀ s ∈ rest, IsName s) (front : r <+: out.join [] ++ rest) (below : folderPlace out a <+: r.place) :
    ∃ tail, a.definitionFolder :: tail <+: rest ∧ r.place = folderPlace out a ++ tail := by
  rcases List.prefix_or_prefix_of_prefix front (List.prefix_append _ _) with short | ⟨tail, rfl⟩
  · exact absurd below (beside r (short.trans (Path.joinNilPrefix out)))
  · rw [List.prefix_append_right_inj] at front
    have place : (out.join [] ++ tail).place = out.place ++ tail := by
      rw [Path.placeAppend, Path.joinNilPlace, Path.placeFromNames fun s member => names s (front.subset member)]
    rw [place, folderPlace, List.prefix_append_right_inj] at below
    obtain ⟨more, rfl⟩ := below
    exact ⟨more, front, by rw [place, folderPlace, List.append_assoc]⟩

theorem foldersWritten {d e d' : Disk} {out : Path} {a : Artifacts} (laid : Laid a)
    (wrote : Wrote (writes out a) e d') (cleared : Cleared (folderPlace out a) d e) (beside : Beside out a)
    {q : Path} (found : d'.find? (folderPlace out a ++ q) = some .directory) :
    ∃ f ∈ a.files, q <+: Path.ofText f.path := by
  have touched : ∃ w ∈ writes out a, ∃ r : Path, r <+: w.1 ∧ folderPlace out a ++ q = r.place := by
    by_contra apart
    rw [wrote.others _ fun w member r front same => apart ⟨w, member, r, front, same⟩, cleared.find,
      if_pos (List.prefix_append ..)] at found
    cases found
  obtain ⟨w, member, r, front, same⟩ := touched
  rcases writesMem laid member with ⟨f, mem, rfl, _⟩ | ⟨rfl, _⟩
  · rw [folderPathSplit, List.append_assoc] at front
    have names := (namedCons laid.folder (laid.named f mem).2).2
    obtain ⟨tail, inside, place⟩ := belowFolder beside names front ⟨q, same⟩
    rw [← same] at place
    rw [List.append_cancel_left place]
    exact ⟨f, mem, (List.cons_prefix_cons.mp inside).2⟩
  · rw [viewerPathSplit laid] at front
    have file : ∀ s ∈ ["model.json"], IsName s := by
      simpa using show IsName "model.json" from ⟨by decide, by decide⟩
    have names := (namedCons laid.slug file).2
    obtain ⟨tail, inside, _⟩ := belowFolder beside names front ⟨q, same⟩
    have equal : a.slug ++ ".SemanticModel" = a.slug := (List.cons_prefix_cons.mp inside).1
    simpa using congrArg String.length equal

theorem compiledHolding {d e d' : Disk} {out : Path} {a : Artifacts} (laid : Laid a)
    (wrote : Wrote (writes out a) e d') (cleared : Cleared (folderPlace out a) d e) (beside : Beside out a) :
    Holding (folderPath out a) (folderWrites a) d' := by
  have written {f : File} (member : f ∈ a.files) :
      (folderPath out a ++ Path.ofText f.path, f.contents) ∈ writes out a := by
    rw [← folderPathJoin laid]
    exact List.mem_append_left _ (List.mem_map_of_mem member)
  refine ⟨wrote.sound, ?_, ?_, ?_, fun q c => ?_, fun q found => ?_⟩
  · exact List.forall_mem_map.mpr laid.named
  · exact List.forall_mem_map.mpr fun f member => wrote.room.fits _ (pathsMem (written member))
  · refine List.forall_mem_map.mpr fun f member => ?_
    have passes := wrote.passes _ (written member)
    rwa [List.dropLast_append_of_ne_nil (laid.named f member).1] at passes
  · rw [folderPathPlace laid, (writtenReplaced laid wrote cleared).definition q c]
    simp [folderWrites]
  · rw [folderPathPlace laid] at found
    obtain ⟨f, member, front⟩ := foldersWritten laid wrote cleared beside found
    exact ⟨_, List.mem_map_of_mem member, front⟩

section Folder
variable {d : Disk} {out : Path} {m : Model} {o : Options} {a : Artifacts} (made : compile m o = .ok a)
  (holding : Holding (folderPath out a) (folderWrites a) d) (culture : hasControl o.culture = false)
  (schema : hasControl o.defaultSchema = false)
include made holding culture schema

theorem folderReadBack (start : Path)
    (place : start = folderPath out a ∨ start = folderPath out a ++ ["definition"]) :
    d.run (readFolder start) = (.ok (outlineOf m), d) := by
  have known : paths (folderWrites a) = ["definition.pbism"] :: definitionPaths m := by
    rw [← compiledPaths made, paths, folderWrites, List.map_map]
    rfl
  obtain ⟨ps, found, perm⟩ := definitionYields holding known (folderPathJoin (compiledLaid made)) place
  have each : List.Forall₂ (fun p t => d.readText p = .ok t)
      ((definitionPaths m).tail.map (folderPath out a ++ ·)) ((files m o).tail.map (·.contents)) := by
    rw [← filePaths m o, ← List.map_tail, List.map_map, List.forall₂_map_left_iff,
      List.forall₂_map_right_iff, List.forall₂_same]
    intro f member
    have written : f ∈ a.files := by
      rw [(compiledParts made).2]
      exact List.mem_cons_of_mem _ (List.mem_of_mem_tail member)
    exact holding.text (List.mem_map_of_mem written)
  obtain ⟨texts, reads, shuffled⟩ := List.perm_comp_forall₂ perm each
  exact folderRead found reads
    (restShuffledRead (compiledLegal made) (hasControlPlain.mp culture) (hasControlPlain.mp schema) shuffled)

end Folder

theorem foldersAgree {d d' : Disk} {out : Path} {m : Model} {o : Options} {a : Artifacts} (sound : d.Sound)
    (done : d.run (compileTo out m o) = (.ok a, d')) (culture : hasControl o.culture = false)
    (schema : hasControl o.defaultSchema = false) :
    ∃ doc, read a.definitionText = .ok doc ∧
      (∀ fs : List File, fs.Perm a.definitionFiles →
        read (String.join (fs.map fun f => f.contents ++ "\n")) = .ok doc) ∧
      (Reached d out a → Beside out a →
        d'.run (readFolder (folderPath out a)) = (.ok doc, d') ∧
        d'.run (readFolder ((folderPath out a).join ["definition"])) = (.ok doc, d')) := by
  obtain ⟨made, e, compiled⟩ := compileDone sound done
  refine ⟨outlineOf m, compiledTextRead made culture schema, fun fs perm => ?_, fun reached beside => ?_⟩
  · rw [compiledDefinition made] at perm
    have read := shuffledRead (compiledLegal made) (hasControlPlain.mp culture) (hasControlPlain.mp schema)
      (perm.map (·.contents))
    rwa [List.map_map] at read
  · have holding := compiledHolding compiled.laid compiled.wrote (compiled.folderCleared reached) beside
    have readFrom := folderReadBack made holding culture schema
    exact ⟨readFrom _ (.inl rfl), readFrom _ (.inr (folderPathJoin compiled.laid _))⟩

theorem straightBeside {out : Path} (straight : ".." ∉ out) (a : Artifacts) : Beside out a := by
  intro r front below
  have longer := (below.trans (Path.placeStraight straight front)).length_le
  rw [folderPlace, List.length_append, List.length_singleton] at longer
  omega

theorem litterRead : ∃ a d' doc, littered.run (compileTo ["out"] shop {}) = (.ok a, d') ∧
    read a.definitionText = .ok doc ∧
    (∀ fs : List File, fs.Perm a.definitionFiles →
      read (String.join (fs.map fun f => f.contents ++ "\n")) = .ok doc) ∧
    d'.run (readFolder (folderPath ["out"] a)) = (.ok doc, d') ∧
    d'.run (readFolder ((folderPath ["out"] a).join ["definition"])) = (.ok doc, d') := by
  obtain ⟨a, d', done⟩ := litteredRun
  obtain ⟨doc, text, files, folders⟩ := foldersAgree litteredSound done (by decide) (by decide)
  exact ⟨a, d', doc, done, text, files,
    folders (straightReached litteredSound (by decide) a) (straightBeside (by decide) a)⟩

def bareShop : Model := { name := "Shop" }

theorem oldHierarchyRead : ∃ a d' known doc,
    littered.run (compileTo ["out", "new", ".."] bareShop {}) = (.ok a, d') ∧
    read a.definitionText = .ok known ∧ (d'.run (readFolder ["out", "Shop.SemanticModel"])).1 = .ok doc ∧
    known.hierarchies = [] ∧ doc.hierarchies = [⟨"Old", []⟩] := by
  have found : (littered.run (compileTo ["out", "new", ".."] bareShop {})).1.isOk = true ∧
      ((littered.run (compileTo ["out", "new", ".."] bareShop {})).2.run
        (readFolder ["out", "Shop.SemanticModel"])).1.toOption.map (·.hierarchies) = some [⟨"Old", []⟩] := by
    decide +kernel
  obtain ⟨a, done⟩ := ranOk found.1
  obtain ⟨made, _⟩ := compileDone litteredSound done
  have known := compiledTextRead made (by decide) (by decide)
  cases doc : ((littered.run (compileTo ["out", "new", ".."] bareShop {})).2.run
      (readFolder ["out", "Shop.SemanticModel"])).1 with
  | error f => simp [doc, Except.toOption] at found
  | ok doc' =>
    have old : doc'.hierarchies = [⟨"Old", []⟩] := by simpa [doc, Except.toOption] using found.2
    exact ⟨a, _, outlineOf bareShop, doc', done, known, doc, rfl, old⟩

end Tabular.Storage

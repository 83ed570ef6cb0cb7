import Tabular.Proofs.Storage.Changes
import Tabular.Proofs.Storage.Layout

/-! What a compilation leaves on a disk. Its output takes the place of whatever stood there, all else is as it
was, and compiling once more changes nothing. -/
namespace Tabular.Storage
open Definition (File Options compiledParts fileStem)
open Tabular.Storage.Path (IsName)
open Disk (Fits Passes)

def folderPath (out : Path) (a : Artifacts) : Path := out.join [a.definitionFolder]
def viewerPath (out : Path) (a : Artifacts) : Path := (out.join [a.slug]).join ["model.json"]

def folderPlace (out : Path) (a : Artifacts) : Place := out.place ++ [a.definitionFolder]
def viewerPlace (out : Path) (a : Artifacts) : Place := out.place ++ [a.slug, "model.json"]

def fileWrites (out : Path) (a : Artifacts) (fs : List File) : List Write :=
  fs.map fun f => ((folderPath out a).join (.ofText f.path), f.contents)

def writes (out : Path) (a : Artifacts) : List Write := fileWrites out a a.files ++ [(viewerPath out a, a.json)]

theorem planWrites (out : Path) (a : Artifacts) :
    plan out a = .clear (folderPath out a) :: writing (writes out a) := by
  simp [plan, writing, writes, fileWrites, folderPath, viewerPath]

theorem nestedBelow {front : Path} {t : String} {q : Path} (name : IsName t) (named : Named q) :
    Nested (front ++ [t] ++ q) := by
  rcases List.eq_nil_or_concat' q with rfl | ⟨folder, s, rfl⟩
  · exact absurd rfl named.1
  · have last : IsName s := named.2 s (by simp)
    rcases List.eq_nil_or_concat' folder with rfl | ⟨above, u, rfl⟩
    · exact ⟨front, t, s, by simp, name, last⟩
    · exact ⟨front ++ [t] ++ above, u, s, by simp, named.2 u (by simp), last⟩

theorem viewerOutside (out : Path) (a : Artifacts) : ¬ folderPlace out a <+: viewerPlace out a := by
  intro below
  rw [folderPlace, viewerPlace, List.prefix_append_right_inj] at below
  have same : a.slug ++ ".SemanticModel" = a.slug := (List.cons_prefix_cons.mp below).1
  have longer := congrArg String.length same
  simp at longer

theorem folderPathSplit (out : Path) (a : Artifacts) : folderPath out a = out.join [] ++ [a.definitionFolder] :=
  Path.joinSplit ..

theorem folderPathFilled (out : Path) (a : Artifacts) : folderPath out a ≠ [] := by simp [folderPathSplit]

theorem folderPathAbove (out : Path) (a : Artifacts) : (folderPath out a).dropLast = out.join [] := by
  rw [folderPathSplit, List.dropLast_concat]

section Paths
variable {out : Path} {a : Artifacts} (laid : Laid a)
include laid

theorem folderPathPlace : (folderPath out a).place = folderPlace out a :=
  Path.joinPlace out (by simpa using laid.folder)

theorem folderPathJoin (q : Path) : (folderPath out a).join q = folderPath out a ++ q :=
  Path.joinName laid.folder out q

theorem filePathPlace {q : Path} (named : Named q) :
    ((folderPath out a).join q).place = folderPlace out a ++ q := by
  rw [Path.joinPlace _ named.2, folderPathPlace laid]

theorem viewerPathSplit : viewerPath out a = out.join [] ++ [a.slug, "model.json"] := by
  rw [viewerPath, Path.joinName laid.slug, Path.joinSplit, List.append_assoc]
  rfl

theorem viewerPathPlace : (viewerPath out a).place = viewerPlace out a := by
  have file : IsName "model.json" := ⟨by decide, by decide⟩
  have slug : (out.join [a.slug]).place = out.place ++ [a.slug] := Path.joinPlace out (by simpa using laid.slug)
  rw [viewerPath, Path.joinPlace _ (by simpa using file), slug, List.append_assoc]
  rfl

theorem writesMem {w : Write} (member : w ∈ writes out a) :
    (∃ f ∈ a.files, w = (folderPath out a ++ Path.ofText f.path, f.contents) ∧
      w.1.place = folderPlace out a ++ Path.ofText f.path) ∨
    w = (viewerPath out a, a.json) ∧ w.1.place = viewerPlace out a := by
  rcases List.mem_append.mp member with file | viewer
  · obtain ⟨f, mem, rfl⟩ := List.mem_map.mp file
    exact .inl ⟨f, mem, by rw [folderPathJoin laid], filePathPlace laid (laid.named f mem)⟩
  · cases List.mem_singleton.mp viewer
    exact .inr ⟨rfl, viewerPathPlace laid⟩

theorem writesNested : ∀ w ∈ writes out a, Nested w.1 := by
  intro w member
  rcases writesMem laid member with ⟨f, mem, rfl, _⟩ | ⟨rfl, _⟩
  · rw [folderPathSplit]
    exact nestedBelow laid.folder (laid.named f mem)
  · have split : viewerPath out a = out.join [] ++ [a.slug] ++ ["model.json"] := by
      rw [viewerPathSplit laid, List.append_assoc]
      rfl
    rw [split]
    exact nestedBelow laid.slug (namedCons ⟨by decide, by decide⟩ (by simp))

theorem writesDistinct : ((writes out a).map fun w => w.1.place).Nodup := by
  have places : (fileWrites out a a.files).map (fun w => w.1.place) =
      (a.files.map fun f => Path.ofText f.path).map (folderPlace out a ++ ·) := by
    rw [fileWrites, List.map_map, List.map_map]
    exact List.map_congr_left fun f mem => filePathPlace laid (laid.named f mem)
  rw [writes, List.map_append, places, List.nodup_append]
  refine ⟨laid.apart.map (List.append_right_injective _), by simp, ?_⟩
  intro p inside q viewer
  obtain ⟨rel, _, rfl⟩ := List.mem_map.mp inside
  have place : q = viewerPlace out a := by
    rw [List.mem_singleton.mp viewer, ← viewerPathPlace laid]
  rw [place]
  exact fun same => viewerOutside out a ⟨rel, same⟩

end Paths

structure Cleared (p : Place) (d d' : Disk) : Prop where
  sound : d'.Sound
  find : ∀ q, d'.find? q = if p <+: q then none else d.find? q

/-- What stands at the folder's place can be reached along the path. It can if the path does not go up,
or if the directory it leads to is there. -/
def Reached (d : Disk) (out : Path) (a : Artifacts) : Prop :=
  d.find? (folderPlace out a) ≠ none → d.Passes out

theorem pruneCleared {d : Disk} (sound : d.Sound) (out : Path) (a : Artifacts) :
    Cleared (folderPlace out a) d (d.prune (folderPlace out a)) := by
  refine ⟨sound.prune _, fun q => ?_⟩
  rw [Disk.findPrune]
  by_cases root : q = []
  · subst root
    have apart : ¬ folderPlace out a <+: [] := by simp [folderPlace]
    simp [apart]
  · simp [root]

section Clear
variable {d e : Disk} {out : Path} {a : Artifacts} (sound : d.Sound) (laid : Laid a)
include sound laid

theorem clearDone (done : d.run (perform (.clear (folderPath out a))) = (.ok (), e)) :
    d.kind? (folderPath out a) = none ∧ e = d ∨
      d.kind? (folderPath out a) = some .directory ∧ e = d.prune (folderPlace out a) := by
  have filled := folderPathFilled out a
  cases kind : d.kind? (folderPath out a) with
  | none =>
    rw [clearFree kind] at done
    cases done
    exact .inl ⟨rfl, rfl⟩
  | some k =>
    cases k with
    | file =>
      rw [clearFile sound filled kind] at done
      cases done
    | directory =>
      rw [clearFolder sound filled kind, folderPathPlace laid] at done
      cases done
      exact .inr ⟨rfl, rfl⟩

theorem clearSound (done : d.run (perform (.clear (folderPath out a))) = (.ok (), e)) : e.Sound := by
  rcases clearDone sound laid done with ⟨_, rfl⟩ | ⟨_, rfl⟩
  · exact sound
  · exact sound.prune _

theorem clearElsewhere (done : d.run (perform (.clear (folderPath out a))) = (.ok (), e)) {q : Place}
    (outside : ¬ folderPlace out a <+: q) : e.find? q = d.find? q := by
  rcases clearDone sound laid done with ⟨_, rfl⟩ | ⟨_, rfl⟩
  · rfl
  · rw [Disk.findPrune, if_neg fun below => outside below.2]

theorem clearReady (free : ∀ c, d.find? (folderPlace out a) ≠ some (.file c)) :
    ∃ e, d.run (perform (.clear (folderPath out a))) = (.ok (), e) := by
  have filled := folderPathFilled out a
  cases kind : d.kind? (folderPath out a) with
  | none => exact ⟨d, clearFree kind⟩
  | some k =>
    cases k with
    | directory => exact ⟨_, clearFolder sound filled kind⟩
    | file =>
      obtain ⟨_, _, c, stands⟩ := (Disk.kindFile sound filled).mp kind
      rw [folderPathPlace laid] at stands
      exact absurd stands (free c)

theorem clearReached (reached : Reached d out a) (fits : Fits (folderPath out a))
    (done : d.run (perform (.clear (folderPath out a))) = (.ok (), e)) : Cleared (folderPlace out a) d e := by
  rcases clearDone sound laid done with ⟨kind, rfl⟩ | ⟨_, rfl⟩
  · have free : e.find? (folderPlace out a) = none := by
      by_contra stands
      have passes := (reached stands).front (Path.joinNilPrefix out)
      rw [← folderPathAbove out a] at passes
      have none := Disk.kindNone sound (folderPathFilled out a) kind fits passes
      rw [folderPathPlace laid] at none
      exact stands none
    refine ⟨sound, fun q => ?_⟩
    split
    · rename_i below
      exact sound.nothingBelow free below
    · rfl
  · exact pruneCleared sound out a

end Clear

theorem compileInvalid {m : Model} {o : Options} {f : Validation.Fault} (refused : compile m o = .error f)
    (d : Disk) (out : Path) : d.run (compileTo out m o) = (.error (.invalid f), d) := by
  unfold compileTo
  rw [refused]
  rfl

theorem compileSettled {m : Model} {o : Options} {a : Artifacts} (made : compile m o = .ok a) {d d' : Disk}
    {out : Path} {r : Except WriteFailure Unit} (ran : d.run (performAll (plan out a)) = (r, d')) :
    d.run (compileTo out m o) = ((r.map fun _ => a).mapError .write, d') := by
  have step : ExceptT.run (performAll (m := OnDisk) (plan out a)) d = (r, d') := ran
  unfold compileTo Disk.run
  rw [made]
  simp only
  rw [ExceptT.run_mk, runBind, step]
  cases r <;> rfl

structure Compiled (out : Path) (a : Artifacts) (d e d' : Disk) : Prop where
  laid : Laid a
  sound : d.Sound
  cleared : d.run (perform (.clear (folderPath out a))) = (.ok (), e)
  wrote : Wrote (writes out a) e d'

theorem compileDone {d d' : Disk} {out : Path} {m : Model} {o : Options} {a : Artifacts} (sound : d.Sound)
    (done : d.run (compileTo out m o) = (.ok a, d')) : compile m o = .ok a ∧ ∃ e, Compiled out a d e d' := by
  cases made : compile m o with
  | error f =>
    rw [compileInvalid made] at done
    cases done
  | ok b =>
    rcases ran : d.run (performAll (plan out b)) with ⟨f | u, last⟩
    · rw [compileSettled made ran] at done
      cases done
    · rw [compileSettled made ran] at done
      cases done
      have laid := compiledLaid made
      rw [planWrites] at ran
      obtain ⟨e, cleared, written⟩ := performAllDone ran
      have between := clearSound sound laid cleared
      exact ⟨rfl, e, laid, sound, cleared,
        writesDone between (writesNested laid) (writesDistinct laid) written⟩

theorem compileReady {d e : Disk} {out : Path} {m : Model} {o : Options} {a : Artifacts}
    (made : compile m o = .ok a) (cleared : d.run (perform (.clear (folderPath out a))) = (.ok (), e))
    (sound : e.Sound) (room : Room (paths (writes out a)) e) :
    ∃ d', d.run (compileTo out m o) = (.ok a, d') ∧ Wrote (writes out a) e d' := by
  have laid := compiledLaid made
  obtain ⟨d', written⟩ := writesReady sound (writesNested laid) room
  have ran : d.run (performAll (plan out a)) = (.ok (), d') := by
    rw [planWrites, performAllStep, cleared]
    exact written
  exact ⟨d', compileSettled made ran, writesDone sound (writesNested laid) (writesDistinct laid) written⟩

/-- The files below the folder are those of the definition and no others, the viewer's file stands beside
them, and elsewhere at most directories are new. -/
structure Replaced (out : Path) (a : Artifacts) (d d' : Disk) : Prop where
  sound : d'.Sound
  leads : d'.Passes (folderPath out a)
  apart : (a.files.map fun f => Path.ofText f.path).Nodup
  definition : ∀ rel c, d'.find? (folderPlace out a ++ rel) = some (.file c) ↔
    ∃ f ∈ a.files, rel = Path.ofText f.path ∧ c = .text f.contents
  viewer : d'.find? (viewerPlace out a) = some (.file (.text a.json))
  others : ∀ q, ¬ folderPlace out a <+: q → q ≠ viewerPlace out a → Spared d d' q

theorem filesBelow {d e d' : Disk} {out : Path} {a : Artifacts} {written : List File}
    (cleared : Cleared (folderPlace out a) d e)
    (stands : ∀ f ∈ written,
      d'.find? (folderPlace out a ++ Path.ofText f.path) = some (.file (.text f.contents)))
    (others : ∀ q, folderPlace out a <+: q →
      (∀ f ∈ written, q ≠ folderPlace out a ++ Path.ofText f.path) → Spared e d' q) (rel : Path) (c : Content) :
    d'.find? (folderPlace out a ++ rel) = some (.file c) ↔
      ∃ f ∈ written, rel = Path.ofText f.path ∧ c = .text f.contents := by
  constructor
  · intro found
    by_cases new : ∃ f ∈ written, folderPlace out a ++ rel = folderPlace out a ++ Path.ofText f.path
    · obtain ⟨f, member, place⟩ := new
      rw [place, stands f member] at found
      refine ⟨f, member, List.append_cancel_left place, ?_⟩
      simpa using found.symm
    · have gone : e.find? (folderPlace out a ++ rel) = none := by
        rw [cleared.find, if_pos (List.prefix_append ..)]
      have untouched := others _ (List.prefix_append ..) fun f member same => new ⟨f, member, same⟩
      rcases untouched with same | ⟨_, directory⟩
      · rw [same, gone] at found
        cases found
      · rw [found] at directory
        cases directory
  · rintro ⟨f, member, rfl, rfl⟩
    exact stands f member

theorem fileFolder {e d' : Disk} {out : Path} {a : Artifacts} (laid : Laid a) {ws : List Write}
    (wrote : Wrote ws e d') {f : File} (member : f ∈ a.files)
    (written : ((folderPath out a).join (Path.ofText f.path), f.contents) ∈ ws) :
    Fits (folderPath out a) ∧ d'.Passes (folderPath out a) := by
  rw [folderPathJoin laid] at written
  have passes := wrote.passes _ written
  rw [List.dropLast_append_of_ne_nil (laid.named f member).1] at passes
  exact ⟨(wrote.room.fits _ (pathsMem written)).front (List.prefix_append ..),
    passes.front (List.prefix_append ..)⟩

section Written
variable {d e d' : Disk} {out : Path} {a : Artifacts} (laid : Laid a) (wrote : Wrote (writes out a) e d')
include laid wrote

theorem fileWritten {f : File} (member : f ∈ a.files) :
    d'.find? (folderPlace out a ++ Path.ofText f.path) = some (.file (.text f.contents)) := by
  rw [← filePathPlace laid (laid.named f member)]
  exact wrote.stands (_, f.contents) (List.mem_append_left _ (List.mem_map_of_mem member))

theorem viewerWritten : d'.find? (viewerPlace out a) = some (.file (.text a.json)) := by
  rw [← viewerPathPlace laid]
  exact wrote.stands (_, a.json) (List.mem_append_right _ (List.mem_singleton.mpr rfl))

theorem elsewhereWritten {q : Place} (outside : ¬ folderPlace out a <+: q) (other : q ≠ viewerPlace out a) :
    Spared e d' q := by
  refine wrote.elsewhere fun w member same => ?_
  rcases writesMem laid member with ⟨f, _, _, place⟩ | ⟨_, place⟩
  · exact outside ⟨_, (same.trans place).symm⟩
  · exact other (same.trans place)

theorem folderFound : Fits (folderPath out a) ∧ d'.Passes (folderPath out a) := by
  obtain ⟨f, rest, _, files, _⟩ := laid.first
  have member : f ∈ a.files := by simp [files]
  exact fileFolder laid wrote member (List.mem_append_left _ (List.mem_map_of_mem member))

theorem writtenReplaced (cleared : Cleared (folderPlace out a) d e) : Replaced out a d d' := by
  refine ⟨wrote.sound, (folderFound laid wrote).2, laid.apart, ?_, viewerWritten laid wrote,
    fun q outside other => ?_⟩
  · refine filesBelow cleared (fun f member => fileWritten laid wrote member) fun q below other => ?_
    refine wrote.elsewhere fun w member same => ?_
    rcases writesMem laid member with ⟨f, mem, _, place⟩ | ⟨_, place⟩
    · exact other f mem (same.trans place)
    · exact viewerOutside out a (same.trans place ▸ below)
  · have kept : e.find? q = d.find? q := by rw [cleared.find, if_neg outside]
    unfold Spared
    rw [← kept]
    exact elsewhereWritten laid wrote outside other

theorem writtenCleared :
    d'.run (perform (.clear (folderPath out a))) = (.ok (), d'.prune (folderPlace out a)) := by
  have filled := folderPathFilled out a
  have kind := (Disk.kindDirectory wrote.sound filled).mpr (folderFound laid wrote)
  rw [clearFolder wrote.sound filled kind, folderPathPlace laid]

theorem writtenAgain (cleared : Cleared (folderPlace out a) d e) {m : Model} {o : Options}
    (made : compile m o = .ok a) :
    ∃ d'', d'.run (compileTo out m o) = (.ok a, d'') ∧ ∀ q, d''.find? q = d'.find? q := by
  have again : Cleared (folderPlace out a) d' (d'.prune (folderPlace out a)) := pruneCleared wrote.sound out a
  have room : Room (paths (writes out a)) (d'.prune (folderPlace out a)) := by
    refine wrote.roomAgain fun q => ?_
    rw [again.find]
    split
    · exact .inl rfl
    · exact .inr rfl
  obtain ⟨d'', ran, rewrote⟩ := compileReady made (writtenCleared laid wrote) again.sound room
  refine ⟨d'', ran, fun q => rewrote.placeAgrees wrote fun untouched => ?_⟩
  rw [again.find, wrote.others q untouched, cleared.find]
  split <;> rfl

end Written

theorem Compiled.folderCleared {d e d' : Disk} {out : Path} {a : Artifacts} (compiled : Compiled out a d e d')
    (reached : Reached d out a) : Cleared (folderPlace out a) d e :=
  clearReached compiled.sound compiled.laid reached (folderFound compiled.laid compiled.wrote).1 compiled.cleared

theorem outputReplaced {d d' : Disk} {out : Path} {m : Model} {o : Options} {a : Artifacts} (sound : d.Sound)
    (done : d.run (compileTo out m o) = (.ok a, d')) (reached : Reached d out a) :
    Replaced out a d d' ∧
      ∃ d'', d'.run (compileTo out m o) = (.ok a, d'') ∧ ∀ q, d''.find? q = d'.find? q := by
  obtain ⟨made, e, compiled⟩ := compileDone sound done
  have emptied := compiled.folderCleared reached
  exact ⟨writtenReplaced compiled.laid compiled.wrote emptied,
    writtenAgain compiled.laid compiled.wrote emptied made⟩

theorem straightReached {d : Disk} (sound : d.Sound) {out : Path} (straight : ".." ∉ out) (a : Artifacts) :
    Reached d out a := by
  intro stands q front
  obtain ⟨e, found⟩ := Option.ne_none_iff_exists'.mp stands
  have above : q.place <+: out.place := Path.placeStraight straight front
  refine sound.directoryAbove found (above.trans (List.prefix_append ..)) fun same => ?_
  have shorter := above.length_le
  rw [same, folderPlace, List.length_append, List.length_singleton] at shorter
  omega

def sales : Table := { name := "Sales", columns := [{ name := "Amount" }] }
def shop : Model := { name := "Shop", tables := [sales] }

theorem ranOk {d : Disk} {out : Path} {m : Model} {o : Options} (ok : (d.run (compileTo out m o)).1.isOk = true) :
    ∃ a, d.run (compileTo out m o) = (.ok a, (d.run (compileTo out m o)).2) := by
  rcases ran : d.run (compileTo out m o) with ⟨f | a, d'⟩
  · rw [ran] at ok
    cases ok
  · exact ⟨a, rfl⟩

def littered : Disk := ⟨[(["out"], .directory), (["out", "Shop.SemanticModel"], .directory),
  (["out", "Shop.SemanticModel", "definition"], .directory),
  (["out", "Shop.SemanticModel", "definition", "hierarchies.tmdl"], .file (.text "hierarchy Old\n"))]⟩

theorem litteredSound : littered.Sound := ⟨by decide, by decide⟩

theorem litteredRun : ∃ a d', littered.run (compileTo ["out"] shop {}) = (.ok a, d') := by
  have ran : (littered.run (compileTo ["out"] shop {})).1.isOk = true := by decide +kernel
  obtain ⟨a, done⟩ := ranOk ran
  exact ⟨a, _, done⟩

theorem litterReplaced : ∃ a d', littered.run (compileTo ["out"] shop {}) = (.ok a, d') ∧
    Replaced ["out"] a littered d' ∧
      ∃ d'', d'.run (compileTo ["out"] shop {}) = (.ok a, d'') ∧ ∀ q, d''.find? q = d'.find? q := by
  obtain ⟨a, d', done⟩ := litteredRun
  exact ⟨a, d', done, outputReplaced litteredSound done (straightReached litteredSound (by decide) a)⟩

theorem staleFileStays : ∃ a d', littered.run (compileTo ["out", "new", ".."] shop {}) = (.ok a, d') ∧
    d'.find? ["out", "Shop.SemanticModel", "definition", "hierarchies.tmdl"] = some (.file (.text "hierarchy Old\n")) ∧
    ¬ Replaced ["out", "new", ".."] a littered d' := by
  -- nothing is seen behind a directory that is still to be made, so nothing is cleared
  have ran : (littered.run (compileTo ["out", "new", ".."] shop {})).1.isOk = true ∧
      (littered.run (compileTo ["out", "new", ".."] shop {})).2.find?
        ["out", "Shop.SemanticModel", "definition", "hierarchies.tmdl"] =
          some (.file (.text "hierarchy Old\n")) := by decide +kernel
  obtain ⟨a, done⟩ := ranOk ran.1
  obtain ⟨made, _⟩ := compileDone litteredSound done
  refine ⟨a, _, done, ran.2, fun replaced => ?_⟩
  have place : folderPlace ["out", "new", ".."] a = ["out", "Shop.SemanticModel"] := by
    rw [folderPlace, Artifacts.definitionFolder, (compiledParts made).1]
    decide
  obtain ⟨f, member, path, _⟩ :=
    (replaced.definition ["definition", "hierarchies.tmdl"] (.text "hierarchy Old\n")).mp (place ▸ ran.2)
  have known : ["definition", "hierarchies.tmdl"] ∈ a.files.map fun f => Path.ofText f.path :=
    path ▸ List.mem_map_of_mem member
  rw [compiledPaths made] at known
  revert known
  decide

end Tabular.Storage

import Tabular.Proofs.Storage.Output

/-! Two models that are compiled into one directory. Each has places of its own there, and a compilation
leaves everything alone that is neither its own nor on the way to the directory. -/
namespace Tabular.Storage
open Definition (Options compiledParts fileStem)
open Tabular.Storage.Path (IsName)
open Disk (Fits Passes)

def OnWay (out : Path) (q : Place) : Prop := ∃ r : Path, r <+: out.join [] ∧ q = r.place

def Own (out : Path) (a : Artifacts) (q : Place) : Prop :=
  ∃ s ∈ [a.slug, a.definitionFolder], out.place ++ [s] <+: q

structure Apart (a b : Artifacts) : Prop where
  slugs : a.slug ≠ b.slug
  left : a.slug ≠ b.definitionFolder
  right : b.slug ≠ a.definitionFolder

theorem Apart.symm {a b : Artifacts} (apart : Apart a b) : Apart b a :=
  ⟨apart.slugs.symm, apart.right, apart.left⟩

theorem ownName {out : Path} {q : Place} {s t : String} (one : out.place ++ [s] <+: q)
    (two : out.place ++ [t] <+: q) : s = t := by
  have longer : (out.place ++ [s]).length = (out.place ++ [t]).length := by simp
  have whole := (List.prefix_of_prefix_length_le one two (Nat.le_of_eq longer)).eq_of_length longer
  simpa using List.append_cancel_left whole

theorem ownApart {out : Path} {a b : Artifacts} (apart : Apart a b) {q : Place} (mine : Own out a q) :
    ¬ Own out b q := by
  rintro ⟨t, other, below⟩
  obtain ⟨s, member, under⟩ := mine
  have same : s = t := ownName under below
  have folders : a.definitionFolder ≠ b.definitionFolder := fun equal => by
    have chars := congrArg String.toList equal
    simp only [Artifacts.definitionFolder, String.toList_append] at chars
    exact apart.slugs (String.toList_inj.mp (List.append_cancel_right chars))
  simp only [List.mem_cons, List.not_mem_nil, or_false] at member other
  rcases member with rfl | rfl <;> rcases other with other | other
  · exact apart.slugs (same.trans other)
  · exact apart.left (same.trans other)
  · exact apart.right (same.trans other).symm
  · exact folders (same.trans other)

section Writes
variable {out : Path} {a : Artifacts} (laid : Laid a)
include laid

theorem writesInside {w : Write} (member : w ∈ writes out a) :
    ∃ s ∈ [a.slug, a.definitionFolder], ∃ rest : Path, w.1 = out.join [] ++ s :: rest ∧ Named (s :: rest) := by
  rcases writesMem laid member with ⟨f, mem, rfl, _⟩ | ⟨rfl, _⟩
  · exact ⟨_, by simp, _, by rw [folderPathSplit, List.append_assoc]; rfl,
      namedCons laid.folder (laid.named f mem).2⟩
  · have file : IsName "model.json" := ⟨by decide, by decide⟩
    exact ⟨_, by simp, ["model.json"], viewerPathSplit laid, namedCons laid.slug (by simpa using file)⟩

theorem writesTouch {w : Write} (member : w ∈ writes out a) {r : Path} (front : r <+: w.1) :
    OnWay out r.place ∨ Own out a r.place := by
  obtain ⟨s, mine, rest, split, named⟩ := writesInside laid member
  rw [split] at front
  rcases List.prefix_or_prefix_of_prefix front (List.prefix_append _ _) with short | ⟨tail, rfl⟩
  · exact .inl ⟨r, short, rfl⟩
  · cases tail with
    | nil => exact .inl ⟨out.join [], List.prefix_refl _, by rw [List.append_nil]⟩
    | cons t tail =>
      rw [List.prefix_append_right_inj] at front
      obtain ⟨rfl, _⟩ := List.cons_prefix_cons.mp front
      refine .inr ⟨t, mine, tail, ?_⟩
      rw [Path.placeAppend, Path.joinNilPlace, Path.placeFromNames fun u mem => named.2 u (front.subset mem),
        List.append_assoc]
      rfl

theorem writesOwn {w : Write} (member : w ∈ writes out a) : Own out a w.1.place := by
  obtain ⟨s, mine, rest, split, named⟩ := writesInside laid member
  refine ⟨s, mine, rest, ?_⟩
  rw [split, Path.placeAppend, Path.joinNilPlace, Path.placeFromNames named.2, List.append_assoc]
  rfl

end Writes

theorem folderOwn {out : Path} {a : Artifacts} {q : Place} (below : folderPlace out a <+: q) : Own out a q :=
  ⟨a.definitionFolder, by simp, below⟩

theorem viewerOwn (out : Path) (a : Artifacts) : Own out a (viewerPlace out a) :=
  ⟨a.slug, by simp, ["model.json"], by simp [viewerPlace]⟩

section Compiled
variable {d e d' : Disk} {out : Path} {a : Artifacts} (compiled : Compiled out a d e d')
include compiled

theorem Compiled.foreignKept {q : Place} (foreign : ¬ Own out a q) {x : Entry} (found : d.find? q = some x) :
    d'.find? q = some x := by
  refine compiled.wrote.kept (fun w member same => foreign (same ▸ writesOwn compiled.laid member)) ?_
  rw [clearElsewhere compiled.sound compiled.laid compiled.cleared fun below => foreign (folderOwn below), found]

theorem Compiled.foreignUnchanged {q : Place} (foreign : ¬ Own out a q) (off : ¬ OnWay out q) :
    d'.find? q = d.find? q := by
  rw [compiled.wrote.others q fun w member r front same => ?_]
  · exact clearElsewhere compiled.sound compiled.laid compiled.cleared fun below => foreign (folderOwn below)
  · subst same
    exact (writesTouch compiled.laid member front).elim off foreign

theorem Compiled.onWay {q : Place} (way : OnWay out q) : d'.find? q = some .directory := by
  obtain ⟨r, front, rfl⟩ := way
  refine (folderFound compiled.laid compiled.wrote).2 r (front.trans ?_)
  rw [folderPathSplit]
  exact List.prefix_append ..

theorem Compiled.outPassable : d'.Passes out := by
  obtain ⟨tail, split, nowhere⟩ := Path.joinNilSplit out
  have passes : d'.Passes (out.join []) := fun r front => compiled.onWay ⟨r, front, rfl⟩
  rw [split]
  exact passes.appendNowhere nowhere

end Compiled

structure Stands (out : Path) (a : Artifacts) (d : Disk) : Prop where
  definition : ∀ f ∈ a.files,
    d.find? (folderPlace out a ++ Path.ofText f.path) = some (.file (.text f.contents))
  viewer : d.find? (viewerPlace out a) = some (.file (.text a.json))

theorem Compiled.outputStands {d e d' : Disk} {out : Path} {a : Artifacts} (compiled : Compiled out a d e d') :
    Stands out a d' :=
  ⟨fun _ member => fileWritten compiled.laid compiled.wrote member, viewerWritten compiled.laid compiled.wrote⟩

theorem Compiled.neighbourStands {d e d' : Disk} {out : Path} {a b : Artifacts} (compiled : Compiled out b d e d')
    (apart : Apart a b) (stands : Stands out a d) : Stands out a d' :=
  ⟨fun f member =>
      compiled.foreignKept (ownApart apart (folderOwn (List.prefix_append ..))) (stands.definition f member),
    compiled.foreignKept (ownApart apart (viewerOwn out a)) stands.viewer⟩

/- A compilation depends only on its own places, and on the way to the directory. -/
theorem Compiled.placeAgrees {c d e f c' d' : Disk} {out : Path} {a : Artifacts} (one : Compiled out a d e d')
    (two : Compiled out a c f c') (reached : Reached d out a) (other : Reached c out a) {q : Place}
    (same : d.find? q = c.find? q) : d'.find? q = c'.find? q :=
  one.wrote.placeAgrees two.wrote fun _ => by
    rw [(one.folderCleared reached).find, (two.folderCleared other).find, same]

section Again
variable {d e d' : Disk} {out : Path} {a : Artifacts} (compiled : Compiled out a d e d')
include compiled

theorem Compiled.wayFree (reached : Reached d out a) {q : Place} (way : OnWay out q) (c : Content) :
    d.find? q ≠ some (.file c) := by
  intro found
  by_cases below : folderPlace out a <+: q
  · have stands : d.find? (folderPlace out a) ≠ none := fun free => by
      rw [compiled.sound.nothingBelow free below] at found
      cases found
    obtain ⟨r, front, rfl⟩ := way
    rw [reached stands r (front.trans (Path.joinNilPrefix out))] at found
    cases found
  · rw [← clearElsewhere compiled.sound compiled.laid compiled.cleared below] at found
    have directory := compiled.onWay way
    have file : d'.find? q = some (.file c) := by
      refine compiled.wrote.kept (fun w member same => ?_) found
      rw [same, compiled.wrote.stands w member] at directory
      cases directory
    rw [file] at directory
    cases directory

theorem Compiled.folderFree (reached : Reached d out a) (c : Content) :
    d.find? (folderPlace out a) ≠ some (.file c) := by
  intro found
  have fits := (folderFound compiled.laid compiled.wrote).1
  have passes := (reached (by simp [found])).front (Path.joinNilPrefix out)
  rw [← folderPathAbove out a] at passes
  rw [← folderPathPlace compiled.laid] at found
  have kind := (Disk.kindFile compiled.sound (folderPathFilled out a)).mpr ⟨fits, passes, c, found⟩
  have kinds := clearDone compiled.sound compiled.laid compiled.cleared
  simp [kind] at kinds

theorem Compiled.folderFreeAgain {c : Disk} (reached : Reached d out a)
    (own : ∀ q, Own out a q → ¬ OnWay out q → c.find? q = d.find? q)
    (ways : ∀ q, OnWay out q → ∀ x, c.find? q ≠ some (.file x)) (x : Content) :
    c.find? (folderPlace out a) ≠ some (.file x) := by
  by_cases way : OnWay out (folderPlace out a)
  · exact ways _ way x
  · rw [own _ (folderOwn (List.prefix_refl _)) way]
    exact compiled.folderFree reached x

theorem Compiled.compilesAgain {m : Model} {o : Options} (made : compile m o = .ok a) {c : Disk} (sound : c.Sound)
    (other : Reached c out a) (free : ∀ x, c.find? (folderPlace out a) ≠ some (.file x))
    (own : ∀ q, Own out a q → ¬ folderPlace out a <+: q → ¬ OnWay out q → c.find? q = d.find? q)
    (ways : ∀ q, OnWay out q → ∀ x, c.find? q ≠ some (.file x)) :
    ∃ c', c.run (compileTo out m o) = (.ok a, c') := by
  have laid := compiled.laid
  obtain ⟨f, cleared⟩ := clearReady sound laid free
  have emptied := clearReached sound laid other (folderFound laid compiled.wrote).1 cleared
  -- what is left at an own place after clearing was there before, when the first compilation began to write
  have before {q : Place} {x : Entry} (mine : Own out a q) (off : ¬ OnWay out q) (found : f.find? q = some x) :
      e.find? q = some x := by
    rw [emptied.find] at found
    split at found
    · cases found
    · rename_i outside
      rw [clearElsewhere compiled.sound laid compiled.cleared outside, ← own q mine outside off, found]
  have room : Room (paths (writes out a)) f := by
    refine ⟨compiled.wrote.room.fits, fun p path found => ?_, fun p path r front x found => ?_,
      compiled.wrote.room.apart⟩
    all_goals obtain ⟨w, member, rfl⟩ := List.mem_map.mp path
    · have off : ¬ OnWay out w.1.place := fun way => by
        have directory := compiled.onWay way
        rw [compiled.wrote.stands w member] at directory
        cases directory
      exact compiled.wrote.room.fresh _ path (before (writesOwn laid member) off found)
    · by_cases way : OnWay out r.place
      · rw [emptied.find] at found
        split at found
        · cases found
        · exact ways _ way x found
      · have mine := (writesTouch laid member (front.trans (List.dropLast_prefix _))).resolve_left way
        exact compiled.wrote.room.ways _ path r front x (before mine way found)
  obtain ⟨c', done, _⟩ := compileReady made cleared emptied.sound room
  exact ⟨c', done⟩

end Again

theorem Compiled.compilesAfterNeighbour {d e f d₁ d₂ : Disk} {out : Path} {m : Model} {o : Options} {a b : Artifacts}
    (alone : Compiled out a d e d₁) (other : Compiled out b d f d₂) (made : compile m o = .ok a)
    (apart : Apart a b) (reached : Reached d out a) : ∃ d', d₂.run (compileTo out m o) = (.ok a, d') := by
  have same (q : Place) (mine : Own out a q) (off : ¬ OnWay out q) : d₂.find? q = d.find? q :=
    other.foreignUnchanged (ownApart apart mine) off
  have ways (q : Place) (way : OnWay out q) (x : Content) : d₂.find? q ≠ some (.file x) := by
    simp [other.onWay way]
  have free := alone.folderFreeAgain reached same ways
  exact alone.compilesAgain made other.wrote.sound (fun _ => other.outPassable) free (fun q mine _ => same q mine) ways

theorem bothStand {d d₁ d₂ : Disk} {out : Path} {m n : Model} {o p : Options} {a b : Artifacts}
    (sound : d.Sound) (first : d.run (compileTo out m o) = (.ok a, d₁))
    (second : d₁.run (compileTo out n p) = (.ok b, d₂)) (apart : Apart a b) :
    Stands out a d₂ ∧ Stands out b d₂ ∧ (Reached d out a → Reached d out b →
      ∃ d₃ d₄, d.run (compileTo out n p) = (.ok b, d₃) ∧ d₃.run (compileTo out m o) = (.ok a, d₄) ∧
        ∀ q, d₄.find? q = d₂.find? q) := by
  obtain ⟨madeA, e₁, a₁⟩ := compileDone sound first
  obtain ⟨madeB, e₂, b₂⟩ := compileDone a₁.wrote.sound second
  refine ⟨b₂.neighbourStands apart a₁.outputStands, b₂.outputStands, fun reachedA reachedB => ?_⟩
  have laterB : Reached d₁ out b := fun _ => a₁.outPassable
  have sameB (q : Place) (mine : Own out b q) (off : ¬ OnWay out q) : d.find? q = d₁.find? q :=
    (a₁.foreignUnchanged (ownApart apart.symm mine) off).symm
  have waysB (q : Place) (way : OnWay out q) (x : Content) : d.find? q ≠ some (.file x) :=
    a₁.wayFree reachedA way x
  obtain ⟨d₃, ranB⟩ := b₂.compilesAgain madeB sound reachedB (b₂.folderFreeAgain laterB sameB waysB)
    (fun q mine _ => sameB q mine) waysB
  obtain ⟨_, e₃, b₃⟩ := compileDone sound ranB
  have laterA : Reached d₃ out a := fun _ => b₃.outPassable
  obtain ⟨d₄, ranA⟩ := a₁.compilesAfterNeighbour b₃ madeA apart reachedA
  obtain ⟨_, e₄, a₄⟩ := compileDone b₃.wrote.sound ranA
  refine ⟨d₃, d₄, ranB, ranA, fun q => ?_⟩
  by_cases way : OnWay out q
  · rw [a₄.onWay way, b₂.onWay way]
  · by_cases mine : Own out a q
    · have foreign := ownApart apart mine
      calc d₄.find? q
        _ = d₁.find? q := a₄.placeAgrees a₁ laterA reachedA (b₃.foreignUnchanged foreign way)
        _ = d₂.find? q := (b₂.foreignUnchanged foreign way).symm
    · calc d₄.find? q
        _ = d₃.find? q := a₄.foreignUnchanged mine way
        _ = d₂.find? q := b₃.placeAgrees b₂ reachedB laterB (a₁.foreignUnchanged mine way).symm

def depot : Model := { name := "Depot", tables := [sales] }

theorem emptySound : Disk.Sound ⟨[]⟩ := ⟨by decide, by decide⟩

theorem shopAndDepot : ∃ a b d₁ d₂, (⟨[]⟩ : Disk).run (compileTo ["out"] shop {}) = (.ok a, d₁) ∧
    d₁.run (compileTo ["out"] depot {}) = (.ok b, d₂) ∧ Apart a b ∧ Stands ["out"] a d₂ ∧ Stands ["out"] b d₂ ∧
    (Reached ⟨[]⟩ ["out"] a → Reached ⟨[]⟩ ["out"] b →
      ∃ d₃ d₄, (⟨[]⟩ : Disk).run (compileTo ["out"] depot {}) = (.ok b, d₃) ∧
        d₃.run (compileTo ["out"] shop {}) = (.ok a, d₄) ∧ ∀ q, d₄.find? q = d₂.find? q) := by
  have ran : ((⟨[]⟩ : Disk).run (compileTo ["out"] shop {})).1.isOk = true ∧
      (((⟨[]⟩ : Disk).run (compileTo ["out"] shop {})).2.run (compileTo ["out"] depot {})).1.isOk = true := by
    decide +kernel
  obtain ⟨a, first⟩ := ranOk ran.1
  obtain ⟨b, second⟩ := ranOk ran.2
  obtain ⟨madeA, _, a₁⟩ := compileDone emptySound first
  obtain ⟨madeB, _⟩ := compileDone a₁.wrote.sound second
  have apart : Apart a b := by
    refine ⟨?_, ?_, ?_⟩
    all_goals simp only [Artifacts.definitionFolder, (compiledParts madeA).1, (compiledParts madeB).1]
    all_goals decide
  exact ⟨a, b, _, _, first, second, apart, bothStand emptySound first second apart⟩

def suffixed : Model := { name := "Shop.SemanticModel" }

theorem viewerFileLost : ∃ a b d₁ d₂, (⟨[]⟩ : Disk).run (compileTo ["out"] suffixed {}) = (.ok a, d₁) ∧
    d₁.run (compileTo ["out"] shop {}) = (.ok b, d₂) ∧ a.slug ≠ b.slug ∧
    d₂.find? (viewerPlace ["out"] a) = none ∧ ¬ Stands ["out"] a d₂ := by
  have ran : ((⟨[]⟩ : Disk).run (compileTo ["out"] suffixed {})).1.isOk = true ∧
      (((⟨[]⟩ : Disk).run (compileTo ["out"] suffixed {})).2.run (compileTo ["out"] shop {})).1.isOk = true ∧
      (((⟨[]⟩ : Disk).run (compileTo ["out"] suffixed {})).2.run (compileTo ["out"] shop {})).2.find?
        ["out", "Shop.SemanticModel", "model.json"] = none := by decide +kernel
  obtain ⟨a, first⟩ := ranOk ran.1
  obtain ⟨b, second⟩ := ranOk ran.2.1
  obtain ⟨madeA, _, a₁⟩ := compileDone emptySound first
  obtain ⟨madeB, _⟩ := compileDone a₁.wrote.sound second
  have slugs : a.slug ≠ b.slug := by
    rw [(compiledParts madeA).1, (compiledParts madeB).1]
    decide
  have place : viewerPlace ["out"] a = ["out", "Shop.SemanticModel", "model.json"] := by
    rw [viewerPlace, (compiledParts madeA).1]
    decide
  have lost := place ▸ ran.2.2
  refine ⟨a, b, _, _, first, second, slugs, lost, fun stands => ?_⟩
  have viewer := stands.viewer
  rw [lost] at viewer
  cases viewer

end Tabular.Storage

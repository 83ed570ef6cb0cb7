import Tabular.Proofs.Storage.Output

/-! A compilation that fails. Outside the folder of the definition nothing is lost. The folder itself is lost
as soon as it has been cleared; what it holds then is a first part of the new definition. -/
namespace Tabular.Storage
open Definition (File Options)
open Tabular.Storage.Path (IsName)
open Disk (Fits Passes)

structure Halted (out : Path) (a : Artifacts) (written : List File) (e d' : Disk) : Prop where
  sound : d'.Sound
  fits : Fits (folderPath out a)
  leads : d'.Passes (folderPath out a)
  stands : ∀ f ∈ written, d'.find? (folderPlace out a ++ Path.ofText f.path) = some (.file (.text f.contents))
  others : ∀ q, (∀ f ∈ written, q ≠ folderPlace out a ++ Path.ofText f.path) → Spared e d' q

structure Blocked (out : Path) (a : Artifacts) (f : WriteFailure) (e d' : Disk) : Prop where
  path : f.path = folderPath out a
  grown : Grown (out.join []) e d'
  unready : ¬ (Fits (folderPath out a) ∧ Unblocked e (folderPath out a))

section Stop
variable {out : Path} {a : Artifacts}

theorem splitWrites {ws : List Write} {w : Write} {left : List Write} (split : writes out a = ws ++ w :: left) :
    ∃ written rest, a.files = written ++ rest ∧ ws = fileWrites out a written := by
  have front : ws <+: fileWrites out a a.files := by
    have whole : ws <+: writes out a := ⟨w :: left, split.symm⟩
    refine (List.prefix_concat_iff.mp whole).resolve_left fun all => ?_
    have lengths := congrArg List.length split
    rw [writes, ← all] at lengths
    simp at lengths
  obtain ⟨more, files⟩ := front
  obtain ⟨written, rest, both, first, _⟩ := List.map_eq_append_iff.mp files.symm
  exact ⟨written, rest, both, first.symm⟩

variable (laid : Laid a)
include laid

theorem fileWritesMem {written rest : List File} (split : a.files = written ++ rest) {w : Write}
    (member : w ∈ fileWrites out a written) :
    ∃ f ∈ written, w.2 = f.contents ∧ w.1.place = folderPlace out a ++ Path.ofText f.path := by
  obtain ⟨f, mem, rfl⟩ := List.mem_map.mp member
  exact ⟨f, mem, rfl, filePathPlace laid (laid.named f (by simp [split, mem]))⟩

theorem writesApart {w : Write} (member : w ∈ writes out a) : w.1 ≠ folderPath out a := by
  intro same
  have place : (folderPath out a).place = folderPlace out a := folderPathPlace laid
  rw [← same] at place
  rcases writesMem laid member with ⟨f, mem, _, at_⟩ | ⟨_, at_⟩
  · have empty := List.append_right_eq_self.mp (at_.symm.trans place)
    exact (laid.named f mem).1 empty
  · have lengths := congrArg List.length (at_.symm.trans place)
    simp [viewerPlace, folderPlace] at lengths

theorem firstStopped {e d' : Disk} (sound : e.Sound) {w : Write} {left : List Write}
    (split : writes out a = w :: left) {f : WriteFailure}
    (failed : e.run (perform (.write w.1 w.2)) = (.error f, d')) :
    Blocked out a f e d' ∨ f.path ≠ folderPath out a ∧ Halted out a [] e d' := by
  obtain ⟨marker, rest, s, files, path⟩ := laid.first
  have member : w ∈ writes out a := by simp [split]
  have first : w.1 = folderPath out a ++ [s] := by
    rw [writes, fileWrites, files, List.map_cons, List.cons_append] at split
    rw [← (List.cons.inj split).1, folderPathJoin laid, path]
  have above : w.1.dropLast = folderPath out a := by rw [first, List.dropLast_concat]
  have stopped := writeFailed sound (writesNested laid w member) failed
  rw [above, folderPathAbove out a] at stopped
  rcases stopped with blocked | ⟨path, made⟩
  · refine .inl ⟨blocked.1, blocked.2, fun ready => ?_⟩
    have whole := (writeBlocked sound (writesNested laid w member) (above ▸ ready.1) (above ▸ ready.2) failed).1
    exact writesApart laid member (whole.symm.trans blocked.1)
  · have fits := made.fits (folderPathFilled out a)
    refine .inr ⟨path ▸ writesApart laid member, made.grown.sound, fits, made.passes, by simp, ?_⟩
    exact fun q _ => made.grown.spared q

theorem laterStopped {e between d' : Disk} {written rest : List File} (files : a.files = written ++ rest)
    (filled : written ≠ []) (wrote : Wrote (fileWrites out a written) e between) {w : Write}
    (member : w ∈ writes out a) {f : WriteFailure}
    (failed : between.run (perform (.write w.1 w.2)) = (.error f, d')) :
    f.path ≠ folderPath out a ∧ Halted out a written e d' := by
  obtain ⟨g, more, rfl⟩ := List.exists_cons_of_ne_nil filled
  have first : g ∈ a.files := by simp [files]
  have found : Fits (folderPath out a) ∧ between.Passes (folderPath out a) :=
    fileFolder laid wrote first (by simp [fileWrites])
  have nested := writesNested laid w member
  have grown : Grown w.1 between d' := by
    rcases writeFailed wrote.sound nested failed with ⟨_, grown⟩ | ⟨_, made⟩
    · exact grown.toLongerPath ((List.dropLast_prefix _).trans (List.dropLast_prefix _))
    · exact made.grown.toLongerPath (List.dropLast_prefix _)
  refine ⟨fun path => ?_, grown.sound, found.1, grown.passes found.2, fun g mem => ?_, fun q other => ?_⟩
  · have whole : f.path = w.1 := by
      rcases writeFailed wrote.sound nested failed with ⟨above, _⟩ | ⟨whole, _⟩
      · have folder := above.symm.trans path
        have ready : Fits w.1.dropLast ∧ Unblocked between w.1.dropLast := by
          rw [folder]
          exact ⟨found.1, found.2.unblocked⟩
        exact (writeBlocked wrote.sound nested ready.1 ready.2 failed).1
      · exact whole
    exact writesApart laid member (whole.symm.trans path)
  · have stands := wrote.stands _ (List.mem_map_of_mem mem)
    have inside : g ∈ a.files := by
      rw [files]
      exact List.mem_append_left rest mem
    rw [filePathPlace laid (laid.named g inside)] at stands
    exact grown.kept stands
  · refine (wrote.elsewhere fun v mem same => ?_).trans (grown.spared q)
    obtain ⟨h, inside, _, place⟩ := fileWritesMem laid files mem
    exact other h inside (same.trans place)

theorem writesStopped {e d' : Disk} (sound : e.Sound) {f : WriteFailure}
    (failed : e.run (performAll (writing (writes out a))) = (.error f, d')) :
    Blocked out a f e d' ∨ f.path ≠ folderPath out a ∧
      ∃ written rest, a.files = written ++ rest ∧ Halted out a written e d' := by
  obtain ⟨done, w, left, between, split, ran, stopped⟩ := writesFailed failed
  cases done with
  | nil =>
    cases ran
    refine (firstStopped laid sound split stopped).imp_right fun halted => ?_
    exact ⟨halted.1, [], a.files, rfl, halted.2⟩
  | cons v vs =>
    obtain ⟨written, rest, files, row⟩ := splitWrites split
    have filled : written ≠ [] := by
      rintro rfl
      cases row
    have among {u : Write} (mem : u ∈ v :: vs) : u ∈ writes out a := by
      rw [split]
      exact List.mem_append_left _ mem
    have distinct : ((v :: vs).map fun w => w.1.place).Nodup := by
      have whole : ((writes out a).map fun w => w.1.place).Nodup := writesDistinct laid
      rw [split, List.map_append] at whole
      exact whole.of_append_left
    have wrote := writesDone sound (fun u mem => writesNested laid u (among mem)) distinct ran
    rw [row] at wrote
    have later := laterStopped laid files filled wrote (w := w) (by simp [split]) stopped
    exact .inr ⟨later.1, written, rest, files, later.2⟩

end Stop

theorem compileFailed {d d' : Disk} {out : Path} {m : Model} {o : Options} {a : Artifacts} {f : CompileFault}
    (made : compile m o = .ok a) (failed : d.run (compileTo out m o) = (.error f, d')) :
    ∃ w, f = .write w ∧ (d.run (perform (.clear (folderPath out a))) = (.error w, d') ∨
      ∃ e, d.run (perform (.clear (folderPath out a))) = (.ok (), e) ∧
        e.run (performAll (writing (writes out a))) = (.error w, d')) := by
  rcases ran : d.run (performAll (plan out a)) with ⟨w | u, last⟩
  · rw [compileSettled made ran] at failed
    cases failed
    refine ⟨w, rfl, ?_⟩
    rw [planWrites, performAllStep] at ran
    rcases cleared : d.run (perform (.clear (folderPath out a))) with ⟨v | u, e⟩
    · rw [cleared] at ran
      exact .inl ran
    · rw [cleared] at ran
      exact .inr ⟨e, rfl, ran⟩
  · rw [compileSettled made ran] at failed
    cases failed

/-- What a failed write of the output leaves behind. If the fault names the folder itself, which it does only
if there was no folder to clear, then nothing is lost, and nothing is new either if the output directory was
there. -/
structure Stopped (out : Path) (a : Artifacts) (w : WriteFailure) (d d' : Disk) : Prop where
  sound : d'.Sound
  outside : ∀ q, ¬ folderPlace out a <+: q → Spared d d' q
  nothing : w.path = folderPath out a → d.kind? (folderPath out a) ≠ some .directory ∧
    (∀ q, Spared d d' q) ∧ (d.Passes out → ∀ q, d'.find? q = d.find? q)
  partly : w.path ≠ folderPath out a → d'.find? (folderPlace out a) = some .directory ∧
    (Reached d out a → ∃ written rest, a.files = written ++ rest ∧ ∀ rel c,
      d'.find? (folderPlace out a ++ rel) = some (.file c) ↔
        ∃ f ∈ written, rel = Path.ofText f.path ∧ c = .text f.contents)

theorem clearFailed {d d' : Disk} {p : Path} {w : WriteFailure}
    (failed : d.run (perform (.clear p)) = (.error w, d')) : w.path = p ∧ d' = d := by
  rw [clearRun] at failed
  split at failed
  · cases failed
  · split at failed
    · cases failed
    · cases failed
      exact ⟨rfl, rfl⟩

theorem clearedReady {d : Disk} {out : Path} {a : Artifacts} (sound : d.Sound)
    (kind : d.kind? (folderPath out a) = some .directory) :
    Fits (folderPath out a) ∧ Unblocked (d.prune (folderPlace out a)) (folderPath out a) := by
  obtain ⟨fits, passes⟩ := (Disk.kindDirectory sound (folderPathFilled out a)).mp kind
  refine ⟨fits, fun r front c stands => ?_⟩
  rw [Disk.findPrune] at stands
  split at stands
  · cases stands
  · exact passes.unblocked r front c stands

theorem failedWrite {d d' : Disk} {out : Path} {m : Model} {o : Options} {a : Artifacts} {w : WriteFailure}
    (sound : d.Sound) (made : compile m o = .ok a)
    (failed : d.run (compileTo out m o) = (.error (.write w), d')) : Stopped out a w d d' := by
  have laid := compiledLaid made
  obtain ⟨v, same, cleared | ⟨e, cleared, stopped⟩⟩ := compileFailed made failed
  all_goals cases same
  · have unclear : d.kind? (folderPath out a) ≠ some .directory := fun kind => by
      rw [clearFolder sound (folderPathFilled out a) kind] at cleared
      cases cleared
    obtain ⟨path, rfl⟩ := clearFailed cleared
    exact ⟨sound, fun q _ => .inl rfl, fun _ => ⟨unclear, fun q => .inl rfl, fun _ q => rfl⟩,
      fun other => absurd path other⟩
  · rcases writesStopped laid (clearSound sound laid cleared) stopped with
      blocked | ⟨path, written, rest, files, halted⟩
    · have untouched : d.kind? (folderPath out a) ≠ some .directory ∧ e = d := by
        rcases clearDone sound laid cleared with ⟨none, same⟩ | ⟨kind, rfl⟩
        · exact ⟨by simp [none], same⟩
        · exact absurd (clearedReady sound kind) blocked.unready
      obtain ⟨unclear, rfl⟩ := untouched
      refine ⟨blocked.grown.sound, fun q _ => blocked.grown.spared q,
        fun _ => ⟨unclear, blocked.grown.spared, ?_⟩, fun other => absurd blocked.path other⟩
      intro passes q
      refine (blocked.grown.each q).resolve_right ?_
      rintro ⟨free, _, r, front, rfl⟩
      rw [passes r (front.trans (Path.joinNilPrefix out))] at free
      cases free
    · refine ⟨halted.sound, fun q outside => ?_, fun same => absurd same path,
        fun _ => ⟨?_, fun reached => ?_⟩⟩
      · have kept := clearElsewhere sound laid cleared outside
        unfold Spared
        rw [← kept]
        exact halted.others q fun f _ same => outside ⟨_, same.symm⟩
      · rw [← folderPathPlace laid]
        exact halted.leads _ (List.prefix_refl _)
      · have emptied := clearReached sound laid reached halted.fits cleared
        exact ⟨written, rest, files, filesBelow emptied halted.stands fun q _ => halted.others q⟩

theorem failureContained {d d' : Disk} {out : Path} {m : Model} {o : Options} {f : CompileFault}
    (sound : d.Sound) (failed : d.run (compileTo out m o) = (.error f, d')) :
    (∃ v, f = .invalid v ∧ d' = d) ∨ ∃ a w, compile m o = .ok a ∧ f = .write w ∧ Stopped out a w d d' := by
  cases made : compile m o with
  | error v =>
    rw [compileInvalid made] at failed
    cases failed
    exact .inl ⟨v, rfl, rfl⟩
  | ok a =>
    obtain ⟨w, rfl, _⟩ := compileFailed made failed
    exact .inr ⟨a, w, rfl, rfl, failedWrite sound made failed⟩

def occupied : Disk := ⟨[(["out"], .directory), (["out", "Shop"], .file (.text "x")),
  (["out", "Shop.SemanticModel"], .directory), (["out", "Shop.SemanticModel", "keep.txt"], .file (.text "old"))]⟩

theorem occupiedSound : occupied.Sound := ⟨by decide, by decide⟩

theorem occupiedRun : ∃ f d', occupied.run (compileTo ["out"] shop {}) = (.error f, d') ∧
    d'.find? ["out", "Shop.SemanticModel", "keep.txt"] = none := by
  have ran : (occupied.run (compileTo ["out"] shop {})).1.isOk = false ∧
      (occupied.run (compileTo ["out"] shop {})).2.find? ["out", "Shop.SemanticModel", "keep.txt"] = none := by
    decide +kernel
  rcases failed : occupied.run (compileTo ["out"] shop {}) with ⟨f | a, d'⟩
  · exact ⟨f, d', rfl, by simpa only [failed] using ran.2⟩
  · rw [failed] at ran
    cases ran.1

theorem occupiedContained : ∃ f d', occupied.run (compileTo ["out"] shop {}) = (.error f, d') ∧
    ((∃ v, f = .invalid v ∧ d' = occupied) ∨
      ∃ a w, compile shop {} = .ok a ∧ f = .write w ∧ Stopped ["out"] a w occupied d') := by
  obtain ⟨f, d', failed, _⟩ := occupiedRun
  exact ⟨f, d', failed, failureContained occupiedSound failed⟩

theorem earlierOutputLost : ∃ f d', occupied.run (compileTo ["out"] shop {}) = (.error f, d') ∧
    occupied.find? ["out", "Shop.SemanticModel", "keep.txt"] = some (.file (.text "old")) ∧
    d'.find? ["out", "Shop.SemanticModel", "keep.txt"] = none := by
  obtain ⟨f, d', failed, lost⟩ := occupiedRun
  exact ⟨f, d', failed, by decide, lost⟩

end Tabular.Storage

import Tabular.Proofs.Storage.Directories
import Tabular.Storage.Output

/-! The changes that writing makes, one after the other: what each does to a disk, when it can be made, and
what a whole row of them leaves behind. -/
namespace Tabular.Storage
open Tabular.Storage.Path (IsName Tidy leadsNowhere)
open Disk (Fits Passes)

def Disk.run {ε α : Type} (d : Disk) (work : ExceptT ε OnDisk α) : Except ε α × Disk := ExceptT.run work d

theorem runThen {ε α β : Type} (d : Disk) (x : ExceptT ε OnDisk α) (f : α → ExceptT ε OnDisk β) :
    d.run (x >>= f) = match d.run x with
      | (.ok a, d') => d'.run (f a)
      | (.error e, d') => (.error e, d') := by
  unfold Disk.run
  rw [ExceptT.run_bind, runBind]
  rcases ExceptT.run x d with ⟨_ | _, d'⟩ <;> rfl

theorem runExplain {ε α : Type} (d : Disk) (fault : Cause → ε) (act : OnDisk (Outcome α)) :
    d.run (explain fault act) = ((act d).1.mapError fault, (act d).2) := rfl

theorem runLift {ε α : Type} (d : Disk) (x : OnDisk α) :
    d.run (liftM x : ExceptT ε OnDisk α) = (.ok (x d).1, (x d).2) := rfl

theorem clearRun (d : Disk) (p : Path) : d.run (perform (.clear p)) =
    match d.kind? p with
    | none => (.ok (), d)
    | some _ => match d.removeTree p with
      | .ok d' => (.ok (), d')
      | .error e => (.error ⟨p, e⟩, d) := by
  simp only [perform, runThen, runLift, Files.kind?]
  cases d.kind? p with
  | none => rfl
  | some k =>
    simp only [Option.isSome_some, if_true, runExplain, Files.removeTree, changing]
    cases d.removeTree p <;> rfl

section Clear
variable {d : Disk} {p : Path}

theorem clearFree (free : d.kind? p = none) : d.run (perform (.clear p)) = (.ok (), d) := by
  rw [clearRun, free]

theorem clearFolder (sound : d.Sound) (filled : p ≠ []) (there : d.kind? p = some .directory) :
    d.run (perform (.clear p)) = (.ok (), d.prune p.place) := by
  obtain ⟨fits, whole⟩ := (Disk.kindDirectory sound filled).mp there
  obtain ⟨front, s, rfl⟩ := (List.eq_nil_or_concat' p).resolve_left filled
  have passes := Disk.passesConcat.mp whole
  rw [clearRun, there]
  simp only [Disk.removeTree, Disk.locateAt sound fits passes.1, passes.2]
  rfl

theorem clearFile (sound : d.Sound) (filled : p ≠ []) (there : d.kind? p = some .file) :
    d.run (perform (.clear p)) = (.error ⟨p, .notDirectory⟩, d) := by
  obtain ⟨fits, passes, c, stands⟩ := (Disk.kindFile sound filled).mp there
  obtain ⟨front, s, rfl⟩ := (List.eq_nil_or_concat' p).resolve_left filled
  rw [List.dropLast_concat] at passes
  rw [clearRun, there]
  simp only [Disk.removeTree, Disk.locateAt sound fits passes, stands]
  rfl

end Clear

def Nested (p : Path) : Prop := ∃ front t s, p = front ++ [t] ++ [s] ∧ IsName t ∧ IsName s

theorem writeRun {p : Path} (nested : Nested p) (d : Disk) (c : String) :
    d.run (perform (.write p c)) =
      match makeDirectories (m := OnDisk) (p.dropLast.length + 1) p.dropLast d with
      | (.error e, d') => (.error ⟨p.dropLast, e⟩, d')
      | (.ok (), d') => match d'.write p (.text c) with
        | .ok d'' => (.ok (), d'')
        | .error e => (.error ⟨p, e⟩, d') := by
  obtain ⟨front, t, s, rfl, folder, name⟩ := nested
  have above : Path.parent? (front ++ [t] ++ [s]) = some (front ++ [t]) :=
    Path.parentNamed folder.leads name.leads
  rw [List.dropLast_concat]
  simp only [perform, above, runThen, runExplain]
  rcases makeDirectories (m := OnDisk) ((front ++ [t]).length + 1) (front ++ [t]) d with ⟨e | u, d'⟩
  · rfl
  · simp only [Except.mapError, Files.writeText, changing]
    cases d'.write (front ++ [t] ++ [s]) (.text c) <;> rfl

theorem Nested.split {p : Path} (nested : Nested p) : ∃ s, p = p.dropLast ++ [s] ∧ IsName s ∧
    Tidy p.dropLast ∧ p.place = Path.place p.dropLast ++ [s] := by
  obtain ⟨front, t, s, rfl, folder, name⟩ := nested
  rw [List.dropLast_concat]
  exact ⟨s, rfl, name, .appendName folder.leads, namePlace name⟩

structure Room (ps : List Path) (d : Disk) : Prop where
  fits : ∀ p ∈ ps, Fits p
  fresh : ∀ p ∈ ps, d.find? p.place ≠ some .directory
  ways : ∀ p ∈ ps, Unblocked d p.dropLast
  apart : ∀ p ∈ ps, ∀ q ∈ ps, ∀ r : Path, r <+: q.dropLast → p.place ≠ r.place

abbrev Write := Path × String

def paths (ws : List Write) : List Path := ws.map (·.1)

theorem pathsMem {w : Write} {ws : List Write} (member : w ∈ ws) : w.1 ∈ paths ws := List.mem_map_of_mem member

structure Wrote (ws : List Write) (d d' : Disk) : Prop where
  sound : d'.Sound
  room : Room (paths ws) d
  stands : ∀ w ∈ ws, d'.find? w.1.place = some (.file (.text w.2))
  passes : ∀ w ∈ ws, d'.Passes w.1.dropLast
  others : ∀ q, (∀ w ∈ ws, ∀ r : Path, r <+: w.1 → q ≠ r.place) → d'.find? q = d.find? q

theorem frontOrWhole {r p : Path} (front : r <+: p) : r <+: p.dropLast ∨ r = p := by
  rcases List.eq_nil_or_concat' p with rfl | ⟨folder, s, rfl⟩
  · exact .inr (List.prefix_nil.mp front)
  · rw [List.dropLast_concat]
    exact (List.prefix_concat_iff.mp front).symm

theorem Wrote.elsewhere {ws : List Write} {d d' : Disk} (wrote : Wrote ws d d') {q : Place}
    (other : ∀ w ∈ ws, q ≠ w.1.place) : Spared d d' q := by
  by_cases touched : ∃ w ∈ ws, ∃ r : Path, r <+: w.1.dropLast ∧ q = r.place
  · obtain ⟨w, member, r, front, rfl⟩ := touched
    have directory := wrote.passes w member r front
    cases found : d.find? r.place with
    | none => exact .inr ⟨found, directory⟩
    | some e =>
      cases e with
      | directory => exact .inl (directory.trans found.symm)
      | file c => exact absurd found (wrote.room.ways _ (pathsMem member) r front c)
  · refine .inl (wrote.others q fun w member r front same => ?_)
    rcases frontOrWhole front with way | rfl
    · exact touched ⟨w, member, r, way, same⟩
    · exact other w member same

theorem Wrote.kept {ws : List Write} {d d' : Disk} (wrote : Wrote ws d d') {q : Place} {e : Entry}
    (other : ∀ w ∈ ws, q ≠ w.1.place) (found : d.find? q = some e) : d'.find? q = some e :=
  (wrote.elsewhere other).kept found

theorem Wrote.apart {ws : List Write} {d' : Disk}
    (stands : ∀ w ∈ ws, d'.find? w.1.place = some (.file (.text w.2)))
    (passes : ∀ w ∈ ws, d'.Passes w.1.dropLast) :
    ∀ p ∈ paths ws, ∀ q ∈ paths ws, ∀ r : Path, r <+: q.dropLast → p.place ≠ r.place := by
  intro p path q way r front same
  obtain ⟨w, mem, rfl⟩ := List.mem_map.mp path
  obtain ⟨v, member, rfl⟩ := List.mem_map.mp way
  have file := stands w mem
  rw [same, passes v member r front] at file
  cases file

theorem writeDone {d d' : Disk} (sound : d.Sound) {p : Path} {c : String} (nested : Nested p)
    (done : d.run (perform (.write p c)) = (.ok (), d')) : Wrote [(p, c)] d d' := by
  obtain ⟨s, split, name, tidy, place⟩ := nested.split
  rw [writeRun nested] at done
  cases up : makeDirectories (m := OnDisk) (p.dropLast.length + 1) p.dropLast d with
  | mk r between =>
    have extent := makeDirectoriesExtent sound tidy up
    simp only [up] at done
    cases r with
    | error e => cases done
    | ok u =>
      have made : Made p.dropLast d between := extent
      cases written : between.write p (.text c) with
      | error e => simp only [written] at done; cases done
      | ok after =>
        simp only [written] at done
        cases done
        rw [split] at written
        obtain ⟨fits, passes, free, rfl⟩ := (Disk.writeOk made.grown.sound name).mp written
        rw [← split] at fits free ⊢
        have notRoot : p.place ≠ [] := by simp [place]
        have parent : between.find? p.place.dropLast = some .directory := by
          rw [place, List.dropLast_concat]
          exact passes _ (List.prefix_refl _)
        have stands : ∀ w ∈ [(p, c)], (between.put p.place (.file (.text c))).find? w.1.place =
            some (.file (.text w.2)) := by
          simp only [List.mem_singleton, forall_eq]
          rw [Disk.findPut notRoot, if_pos rfl]
        have ways : ∀ w ∈ [(p, c)], (between.put p.place (.file (.text c))).Passes w.1.dropLast := by
          simp only [List.mem_singleton, forall_eq]
          intro r front
          have apart : r.place ≠ p.place := fun same => free (same ▸ passes r front)
          rw [Disk.findPut notRoot, if_neg apart, passes r front]
        have single : paths [(p, c)] = [p] := rfl
        refine ⟨made.grown.sound.put notRoot parent (.inr free), ⟨by simpa [single] using fits, ?_, ?_,
          Wrote.apart stands ways⟩, stands, ways, ?_⟩
        · simp only [single, List.mem_singleton, forall_eq]
          exact fun found => free (made.grown.kept found)
        · simp only [single, List.mem_singleton, forall_eq]
          intro r front c found
          have directory := passes r front
          rw [made.grown.kept found] at directory
          cases directory
        · simp only [List.mem_singleton, forall_eq]
          intro q other
          rw [Disk.findPut notRoot, if_neg (other p (List.prefix_refl p))]
          refine (made.grown.each q).resolve_right ?_
          rintro ⟨_, _, r, front, same⟩
          exact other r (front.trans (List.dropLast_prefix p)) same

theorem writeFailed {d d' : Disk} (sound : d.Sound) {p : Path} {c : String} (nested : Nested p)
    {f : WriteFailure} (failed : d.run (perform (.write p c)) = (.error f, d')) :
    f.path = p.dropLast ∧ Grown p.dropLast.dropLast d d' ∨ f.path = p ∧ Made p.dropLast d d' := by
  obtain ⟨s, split, name, tidy, place⟩ := nested.split
  rw [writeRun nested] at failed
  cases up : makeDirectories (m := OnDisk) (p.dropLast.length + 1) p.dropLast d with
  | mk r between =>
    have extent := makeDirectoriesExtent sound tidy up
    simp only [up] at failed
    cases r with
    | error e =>
      cases failed
      exact .inl ⟨rfl, extent⟩
    | ok u =>
      cases written : between.write p (.text c) with
      | ok after => simp only [written] at failed; cases failed
      | error e =>
        simp only [written] at failed
        cases failed
        exact .inr ⟨rfl, extent⟩

theorem writeBlocked {d d' : Disk} (sound : d.Sound) {p : Path} {c : String} (nested : Nested p)
    (fits : Fits p.dropLast) (free : Unblocked d p.dropLast) {f : WriteFailure}
    (failed : d.run (perform (.write p c)) = (.error f, d')) : f.path = p ∧ Made p.dropLast d d' := by
  obtain ⟨s, split, name, tidy, place⟩ := nested.split
  obtain ⟨between, up⟩ := makeDirectoriesReady sound tidy (Nat.lt_succ_self _) (fun _ => fits) free
  have made : Made p.dropLast d between := makeDirectoriesExtent sound tidy up
  rw [writeRun nested] at failed
  simp only [up] at failed
  cases written : between.write p (.text c) with
  | ok after => simp only [written] at failed; cases failed
  | error e =>
    simp only [written] at failed
    cases failed
    exact ⟨rfl, made⟩

theorem writeReady {d : Disk} (sound : d.Sound) {p : Path} {c : String} (nested : Nested p)
    (room : Room [p] d) : ∃ d', d.run (perform (.write p c)) = (.ok (), d') := by
  obtain ⟨s, split, name, tidy, place⟩ := nested.split
  have fits : Fits p := room.fits p (by simp)
  have front : p.dropLast <+: p := List.dropLast_prefix p
  obtain ⟨between, up⟩ := makeDirectoriesReady sound tidy (Nat.lt_succ_self _) (fun _ => fits.front front)
    (room.ways p (by simp))
  have made : Made p.dropLast d between := makeDirectoriesExtent sound tidy up
  have still : between.find? p.place ≠ some .directory := by
    rcases made.grown.each p.place with same | ⟨_, _, r, shorter, same⟩
    · rw [same]
      exact room.fresh p (by simp)
    · exact absurd same (room.apart p (by simp) p (by simp) r shorter)
  have written : between.write p (.text c) = .ok (between.put p.place (.file (.text c))) := by
    rw [split] at fits still ⊢
    exact (Disk.writeOk made.grown.sound name).mpr ⟨fits, made.passes, still, rfl⟩
  refine ⟨between.put p.place (.file (.text c)), ?_⟩
  rw [writeRun nested]
  simp only [up, written]

theorem performAllStep (change : Change) (changes : List Change) (d : Disk) :
    d.run (performAll (change :: changes)) = match d.run (perform change) with
      | (.ok (), d') => d'.run (performAll changes)
      | (.error e, d') => (.error e, d') := by
  have step : performAll (m := OnDisk) (change :: changes) =
      (perform change >>= fun _ => performAll changes) := List.forM_cons ..
  rw [step, runThen]
  rcases d.run (perform change) with ⟨e | u, between⟩ <;> rfl

theorem performAllDone {change : Change} {changes : List Change} {d d' : Disk}
    (done : d.run (performAll (change :: changes)) = (.ok (), d')) :
    ∃ between, d.run (perform change) = (.ok (), between) ∧
      between.run (performAll changes) = (.ok (), d') := by
  rw [performAllStep] at done
  rcases first : d.run (perform change) with ⟨e | u, between⟩
  · rw [first] at done
    cases done
  · rw [first] at done
    exact ⟨between, rfl, done⟩

theorem performAllFailed {changes : List Change} {d d' : Disk} {f : WriteFailure}
    (failed : d.run (performAll changes) = (.error f, d')) :
    ∃ done change left between, changes = done ++ change :: left ∧
      d.run (performAll done) = (.ok (), between) ∧ between.run (perform change) = (.error f, d') := by
  induction changes generalizing d with
  | nil => cases failed
  | cons change changes ih =>
    rw [performAllStep] at failed
    rcases first : d.run (perform change) with ⟨e | u, between⟩
    · rw [first] at failed
      cases failed
      exact ⟨[], change, changes, d, rfl, rfl, first⟩
    · rw [first] at failed
      obtain ⟨done, next, left, last, split, ran, stopped⟩ := ih failed
      refine ⟨change :: done, next, left, last, by rw [split]; rfl, ?_, stopped⟩
      rw [performAllStep, first]
      exact ran

def writing (ws : List Write) : List Change := ws.map fun w => .write w.1 w.2

theorem writesFailed {ws : List Write} {d d' : Disk} {f : WriteFailure}
    (failed : d.run (performAll (writing ws)) = (.error f, d')) :
    ∃ done w left between, ws = done ++ w :: left ∧
      d.run (performAll (writing done)) = (.ok (), between) ∧
      between.run (perform (.write w.1 w.2)) = (.error f, d') := by
  obtain ⟨changes, change, rest, between, split, ran, stopped⟩ := performAllFailed failed
  obtain ⟨done, more, both, rfl, later⟩ := List.map_eq_append_iff.mp split
  obtain ⟨w, left, rfl, rfl, _⟩ := List.map_eq_cons_iff.mp later
  exact ⟨done, w, left, between, both, ran, stopped⟩

theorem Wrote.nil {d : Disk} (sound : d.Sound) : Wrote [] d d :=
  ⟨sound, ⟨by simp [paths], by simp [paths], by simp [paths], by simp [paths]⟩, by simp, by simp,
    fun _ _ => rfl⟩

theorem Wrote.cons {w : Write} {ws : List Write} {d between d' : Disk} (first : Wrote [w] d between)
    (rest : Wrote ws between d') (apart : ∀ v ∈ ws, w.1.place ≠ v.1.place) : Wrote (w :: ws) d d' := by
  have here : w ∈ [w] := List.mem_singleton.mpr rfl
  have stands : ∀ v ∈ w :: ws, d'.find? v.1.place = some (.file (.text v.2)) :=
    List.forall_mem_cons.mpr ⟨rest.kept apart (first.stands w here), rest.stands⟩
  have passes : ∀ v ∈ w :: ws, d'.Passes v.1.dropLast := by
    refine List.forall_mem_cons.mpr ⟨fun r front => ?_, rest.passes⟩
    have found := first.passes w here r front
    exact rest.kept (fun v mem same => rest.room.fresh _ (pathsMem mem) (same ▸ found)) found
  have ways := Wrote.apart stands passes
  have earlier {q : Place} {e : Entry} (other : q ≠ w.1.place) (found : d.find? q = some e) :
      between.find? q = some e := first.kept (by simpa using other) found
  refine ⟨rest.sound, ⟨?_, ?_, ?_, ways⟩, stands, passes, fun q other => ?_⟩
  · exact List.forall_mem_cons.mpr ⟨first.room.fits _ (pathsMem here), rest.room.fits⟩
  · refine List.forall_mem_cons.mpr ⟨first.room.fresh _ (pathsMem here), fun p path found => ?_⟩
    obtain ⟨v, mem, rfl⟩ := List.mem_map.mp path
    exact rest.room.fresh _ path (earlier (apart v mem).symm found)
  · refine List.forall_mem_cons.mpr ⟨first.room.ways _ (pathsMem here), fun p path r front c found => ?_⟩
    have other := ways w.1 List.mem_cons_self p (List.mem_cons_of_mem _ path) r front
    exact rest.room.ways p path r front c (earlier other.symm found)
  · obtain ⟨head, tail⟩ := List.forall_mem_cons.mp other
    rw [rest.others q tail, first.others q (by simpa using head)]

theorem writesDone {ws : List Write} {d d' : Disk} (sound : d.Sound) (nested : ∀ w ∈ ws, Nested w.1)
    (distinct : (ws.map fun w => w.1.place).Nodup)
    (done : d.run (performAll (writing ws)) = (.ok (), d')) : Wrote ws d d' := by
  induction ws generalizing d with
  | nil =>
    cases done
    exact .nil sound
  | cons w ws ih =>
    obtain ⟨between, ran, later⟩ := performAllDone done
    obtain ⟨inside, within⟩ := List.forall_mem_cons.mp nested
    obtain ⟨fresh, apart⟩ := List.nodup_cons.mp distinct
    have first : Wrote [w] d between := writeDone sound inside ran
    exact first.cons (ih first.sound within apart later) fun v mem same =>
      fresh (List.mem_map.mpr ⟨v, mem, same.symm⟩)

theorem Room.afterWrite {w : Write} {ws : List Write} {d between : Disk} (room : Room (paths (w :: ws)) d)
    (first : Wrote [w] d between) : Room (paths ws) between := by
  have here : w.1 ∈ paths (w :: ws) := List.mem_cons_self
  have later {p : Path} (path : p ∈ paths ws) : p ∈ paths (w :: ws) := List.mem_cons_of_mem _ path
  have unchanged {q : Place} (other : q ≠ w.1.place)
      (off : ∀ r : Path, r <+: w.1.dropLast → q ≠ r.place) : between.find? q = d.find? q := by
    refine first.others q ?_
    simp only [List.mem_singleton, forall_eq]
    intro r front
    rcases frontOrWhole front with way | rfl
    · exact off r way
    · exact other
  refine ⟨fun p path => room.fits p (later path), fun p path found => ?_, fun p path r front c found => ?_,
    fun p path q way => room.apart p (later path) q (later way)⟩
  · by_cases same : p.place = w.1.place
    · rw [same, first.stands w (List.mem_singleton.mpr rfl)] at found
      cases found
    · rw [unchanged same (room.apart p (later path) _ here)] at found
      exact room.fresh p (later path) found
  · by_cases way : ∃ s : Path, s <+: w.1.dropLast ∧ r.place = s.place
    · obtain ⟨s, shorter, same⟩ := way
      rw [same, first.passes w (List.mem_singleton.mpr rfl) s shorter] at found
      cases found
    · rw [unchanged (room.apart _ here p (later path) r front).symm
        fun s shorter same => way ⟨s, shorter, same⟩] at found
      exact room.ways p (later path) r front c found

theorem writesReady {ws : List Write} {d : Disk} (sound : d.Sound) (nested : ∀ w ∈ ws, Nested w.1)
    (room : Room (paths ws) d) : ∃ d', d.run (performAll (writing ws)) = (.ok (), d') := by
  induction ws generalizing d with
  | nil => exact ⟨d, rfl⟩
  | cons w ws ih =>
    obtain ⟨inside, within⟩ := List.forall_mem_cons.mp nested
    have single {p : Path} (path : p ∈ [w.1]) : p ∈ paths (w :: ws) := by
      rw [List.mem_singleton.mp path]
      exact List.mem_cons_self
    have alone : Room [w.1] d :=
      ⟨fun p path => room.fits p (single path), fun p path => room.fresh p (single path),
        fun p path => room.ways p (single path),
        fun p path q way => room.apart p (single path) q (single way)⟩
    obtain ⟨between, ran⟩ := writeReady sound inside alone
    have first : Wrote [w] d between := writeDone sound inside ran
    obtain ⟨d', later⟩ := ih first.sound within (room.afterWrite first)
    refine ⟨d', ?_⟩
    have step := performAllStep (.write w.1 w.2) (writing ws) d
    rw [ran] at step
    exact step.trans later

theorem Wrote.roomAgain {ws : List Write} {d e t : Disk} (wrote : Wrote ws d t)
    (part : ∀ q, e.find? q = none ∨ e.find? q = t.find? q) : Room (paths ws) e := by
  refine ⟨wrote.room.fits, fun p path found => ?_, fun p path r front c found => ?_, wrote.room.apart⟩
  all_goals obtain ⟨w, member, rfl⟩ := List.mem_map.mp path
  · rcases part w.1.place with gone | same
    · rw [gone] at found
      cases found
    · rw [same, wrote.stands w member] at found
      cases found
  · rcases part r.place with gone | same
    · rw [gone] at found
      cases found
    · rw [same, wrote.passes w member r front] at found
      cases found

theorem Wrote.placeAgrees {ws : List Write} {d d' e e' : Disk} (one : Wrote ws d d') (two : Wrote ws e e')
    {q : Place} (same : (∀ w ∈ ws, ∀ r : Path, r <+: w.1 → q ≠ r.place) → d.find? q = e.find? q) :
    d'.find? q = e'.find? q := by
  by_cases touched : ∃ w ∈ ws, ∃ r : Path, r <+: w.1 ∧ q = r.place
  · obtain ⟨w, mem, r, front, rfl⟩ := touched
    rcases frontOrWhole front with way | rfl
    · rw [one.passes w mem r way, two.passes w mem r way]
    · rw [one.stands w mem, two.stands w mem]
  · have other : ∀ w ∈ ws, ∀ r : Path, r <+: w.1 → q ≠ r.place :=
      fun w mem r front found => touched ⟨w, mem, r, front, found⟩
    rw [one.others q other, two.others q other, same other]

end Tabular.Storage

import Tabular.Proofs.Storage.Disk

/-! Making a directory with all that leads to it. Nothing is lost by it, and it succeeds unless a file
stands in the way or a name is refused. -/
namespace Tabular.Storage
open Tabular.Storage.Path (IsName Tidy leadsNowhere)
open Disk (Fits Passes)

def Spared (d d' : Disk) (q : Place) : Prop :=
  d'.find? q = d.find? q ∨ d.find? q = none ∧ d'.find? q = some .directory

theorem Spared.kept {d d' : Disk} {q : Place} (spared : Spared d d' q) {e : Entry}
    (found : d.find? q = some e) : d'.find? q = some e := by
  rcases spared with same | ⟨free, _⟩
  · rw [same, found]
  · rw [free] at found
    cases found

theorem Spared.trans {d d₁ d₂ : Disk} {q : Place} (first : Spared d d₁ q) (second : Spared d₁ d₂ q) :
    Spared d d₂ q := by
  rcases second with same | ⟨free, made⟩
  · rcases first with before | ⟨none, stands⟩
    · exact .inl (same.trans before)
    · exact .inr ⟨none, same.trans stands⟩
  · rcases first with before | ⟨_, stands⟩
    · exact .inr ⟨before.symm.trans free, made⟩
    · rw [free] at stands
      cases stands

structure Grown (p : Path) (d d' : Disk) : Prop where
  sound : d'.Sound
  each : ∀ q, d'.find? q = d.find? q ∨
    d.find? q = none ∧ d'.find? q = some .directory ∧ ∃ r : Path, r <+: p ∧ q = r.place

theorem Grown.refl {d : Disk} (sound : d.Sound) (p : Path) : Grown p d d := ⟨sound, fun _ => .inl rfl⟩

theorem Grown.spared {p : Path} {d d' : Disk} (grown : Grown p d d') (q : Place) : Spared d d' q :=
  (grown.each q).imp_right fun made => ⟨made.1, made.2.1⟩

theorem Grown.kept {p : Path} {d d' : Disk} (grown : Grown p d d') {q : Place} {e : Entry}
    (found : d.find? q = some e) : d'.find? q = some e := (grown.spared q).kept found

theorem Grown.passes {p r : Path} {d d' : Disk} (grown : Grown p d d') (passes : d.Passes r) : d'.Passes r :=
  fun q front => grown.kept (passes q front)

theorem Grown.trans {p : Path} {d d₁ d₂ : Disk} (first : Grown p d d₁) (second : Grown p d₁ d₂) :
    Grown p d d₂ := by
  refine ⟨second.sound, fun q => ?_⟩
  rcases second.each q with same | ⟨free, made, passed⟩
  · rw [same]
    exact first.each q
  · rcases first.each q with before | ⟨_, stands, _⟩
    · exact .inr ⟨before ▸ free, made, passed⟩
    · rw [free] at stands
      contradiction

theorem Grown.toLongerPath {p r : Path} {d d' : Disk} (grown : Grown p d d') (front : p <+: r) : Grown r d d' := by
  refine ⟨grown.sound, fun q => (grown.each q).imp_right ?_⟩
  rintro ⟨free, made, s, shorter, rfl⟩
  exact ⟨free, made, s, shorter.trans front, rfl⟩

theorem runBind {α β : Type} (x : OnDisk α) (f : α → OnDisk β) (d : Disk) :
    (x >>= f) d = f (x d).1 (x d).2 := rfl

theorem runUnlessDirectory (p : Path) (e : Cause) (d : Disk) :
    (do return if ← isDirectory p then .ok () else .error e : OnDisk (Outcome Unit)) d =
      (if d.kind? p = some .directory then .ok () else .error e, d) := by
  rw [runBind]
  have known : isDirectory (m := OnDisk) p d = (decide (d.kind? p = some .directory), d) := rfl
  rw [known]
  by_cases there : d.kind? p = some .directory
  · rw [if_pos there, decide_eq_true there]
    rfl
  · rw [if_neg there, decide_eq_false there]
    rfl

theorem ensureStep (p : Path) (d : Disk) : ensureDirectory (m := OnDisk) p d =
    match d.makeDirectory p with
    | .ok d' => (.ok (), d')
    | .error e => (if d.kind? p = some .directory then .ok () else .error e, d) := by
  unfold ensureDirectory
  rw [runBind]
  simp only [Files.makeDirectory, changing]
  cases d.makeDirectory p with
  | ok d' => rfl
  | error e => exact runUnlessDirectory p e d

theorem makeDirectoriesStep (n : Nat) {p : Path} (filled : p ≠ []) (d : Disk) :
    makeDirectories (m := OnDisk) (n + 1) p d =
      match d.makeDirectory p with
      | .ok d' => (.ok (), d')
      | .error .notFound =>
        match p.parent? with
        | none => (.error .notFound, d)
        | some parent =>
          match makeDirectories (m := OnDisk) n parent d with
          | (.ok (), d') => ensureDirectory (m := OnDisk) p d'
          | (.error e, d') => (.error e, d')
      | .error e => (if d.kind? p = some .directory then .ok () else .error e, d) := by
  have some_ : p.isEmpty = false := by simpa using filled
  rw [makeDirectories, some_, if_neg (by simp), runBind]
  simp only [Files.makeDirectory, changing]
  cases made : d.makeDirectory p with
  | ok d' => rfl
  | error e =>
    cases e with
    | notFound =>
      cases p.parent? with
      | none => rfl
      | some parent =>
        simp only [runBind]
        rcases makeDirectories (m := OnDisk) n parent d with ⟨_ | _, d'⟩ <;> rfl
    | _ => exact runUnlessDirectory p _ d

section Made
variable {d : Disk} {front : Path} {s : String}

theorem freeName (sound : d.Sound) (passes : d.Passes front) (free : d.find? (front ++ [s]).place = none) :
    IsName s := by
  have here := passes front (List.prefix_refl _)
  have steps : (front ++ [s]).place = Path.step front.place s := Path.placeAppend front [s]
  rw [steps] at free
  constructor
  · by_contra leads
    have nowhere : leadsNowhere s = true := by simpa using leads
    rw [Path.step, if_pos nowhere, here] at free
    contradiction
  · rintro rfl
    have climbs : Path.step front.place ".." = front.place.dropLast := by simp [Path.step, leadsNowhere]
    rw [climbs, sound.parent here] at free
    contradiction

theorem namePlace (name : IsName s) : (front ++ [s]).place = front.place ++ [s] := by
  rw [Path.placeAppend, Path.placeFromNames (by simpa using name)]

theorem putGrown (sound : d.Sound) (passes : d.Passes front) (free : d.find? (front ++ [s]).place = none) :
    Grown (front ++ [s]) d (d.put (front ++ [s]).place .directory) ∧
      (d.put (front ++ [s]).place .directory).Passes (front ++ [s]) := by
  have place : (front ++ [s]).place = front.place ++ [s] := namePlace (freeName sound passes free)
  have notRoot : (front ++ [s]).place ≠ [] := by simp [place]
  have parent : d.find? (front ++ [s]).place.dropLast = some .directory := by
    rw [place, List.dropLast_concat]
    exact passes front (List.prefix_refl _)
  have grown : Grown (front ++ [s]) d (d.put (front ++ [s]).place .directory) := by
    refine ⟨sound.put notRoot parent (.inl rfl), fun q => ?_⟩
    rw [Disk.findPut notRoot]
    by_cases same : q = (front ++ [s]).place
    · rw [if_pos same, same]
      exact .inr ⟨free, rfl, _, List.prefix_refl _, rfl⟩
    · rw [if_neg same]
      exact .inl rfl
  refine ⟨grown, Disk.passesConcat.mpr ⟨grown.passes passes, ?_⟩⟩
  rw [Disk.findPut notRoot, if_pos rfl]

structure Made (p : Path) (d d' : Disk) : Prop where
  grown : Grown p d d'
  passes : d'.Passes p
  fits : p ≠ [] → Fits p

def Extent (p : Path) (d d' : Disk) : Outcome Unit → Prop
  | .ok () => Made p d d'
  | .error _ => Grown p.dropLast d d'

theorem settledExtent (sound : d.Sound) {e : Cause} {d' : Disk} {r : Outcome Unit}
    (ran : (if d.kind? (front ++ [s]) = some .directory then .ok () else .error e, d) = (r, d')) :
    Extent (front ++ [s]) d d' r := by
  split at ran
  · rename_i there
    cases ran
    have known := (Disk.kindDirectory sound (by simp)).mp there
    exact ⟨.refl sound _, known.2, fun _ => known.1⟩
  · cases ran
    exact .refl sound _

theorem directoryMade (sound : d.Sound) (tidy : Tidy (front ++ [s])) {d' : Disk}
    (made : d.makeDirectory (front ++ [s]) = .ok d') : Made (front ++ [s]) d d' := by
  obtain ⟨fits, passes, free, rfl⟩ := (Disk.makeDirectoryOk sound tidy).mp made
  have put := putGrown sound passes free
  exact ⟨put.1, put.2, fun _ => fits⟩

theorem ensureExtent (sound : d.Sound) (tidy : Tidy (front ++ [s])) {d' : Disk} {r : Outcome Unit}
    (ran : ensureDirectory (m := OnDisk) (front ++ [s]) d = (r, d')) : Extent (front ++ [s]) d d' r := by
  rw [ensureStep] at ran
  cases made : d.makeDirectory (front ++ [s]) with
  | ok after =>
    rw [made] at ran
    cases ran
    exact directoryMade sound tidy made
  | error e =>
    rw [made] at ran
    exact settledExtent sound ran

theorem missingParent (sound : d.Sound) (tidy : Tidy (front ++ [s]))
    (missing : d.makeDirectory (front ++ [s]) = .error .notFound) :
    ∃ parent tail, (front ++ [s]).parent? = some parent ∧ Tidy parent ∧ front = parent ++ tail ∧
      ∀ t ∈ tail, leadsNowhere t = true := by
  refine (Path.parentSplit tidy).resolve_right fun nowhere => ?_
  obtain ⟨q, shorter, free⟩ := Disk.makeDirectoryMissing sound tidy missing
  have root : q.place = [] := Path.placeFromNowhere (fun t mem => nowhere t (shorter.subset mem)) []
  rw [root, Disk.findRoot] at free
  contradiction

theorem makeDirectoriesExtent {n : Nat} {p : Path} (sound : d.Sound) (tidy : Tidy p) {d' : Disk}
    {r : Outcome Unit} (ran : makeDirectories (m := OnDisk) n p d = (r, d')) : Extent p d d' r := by
  induction n generalizing p r d' with
  | zero =>
    cases ran
    exact .refl sound _
  | succ n ih =>
    rcases List.eq_nil_or_concat' p with rfl | ⟨front, s, rfl⟩
    · cases ran
      exact ⟨.refl sound _, Disk.passesNil d, fun filled => absurd rfl filled⟩
    · rw [makeDirectoriesStep n (by simp)] at ran
      split at ran
      · rename_i after made
        cases ran
        exact directoryMade sound tidy made
      · rename_i missing
        obtain ⟨parent, tail, found, tidyParent, split, nowhere⟩ := missingParent sound tidy missing
        have front_ : parent <+: front := ⟨tail, split.symm⟩
        rw [found] at ran
        simp only at ran
        split at ran
        · rename_i between up
          have reached : Made parent d between := ih tidyParent up
          have last := ensureExtent reached.grown.sound tidy ran
          cases r with
          | ok u =>
            have made : Made (front ++ [s]) between d' := last
            exact ⟨(reached.grown.toLongerPath (front_.trans (List.prefix_append ..))).trans made.grown,
              made.passes, made.fits⟩
          | error e =>
            have grown : Grown (front ++ [s]).dropLast between d' := last
            rw [List.dropLast_concat] at grown
            change Grown (front ++ [s]).dropLast d d'
            rw [List.dropLast_concat]
            exact (reached.grown.toLongerPath front_).trans grown
        · rename_i up
          cases ran
          have grown : Grown parent.dropLast d d' := ih tidyParent up
          change Grown (front ++ [s]).dropLast d d'
          rw [List.dropLast_concat]
          exact grown.toLongerPath ((List.dropLast_prefix parent).trans front_)
      · exact settledExtent sound ran

def Unblocked (d : Disk) (p : Path) : Prop := ∀ q : Path, q <+: p → ∀ c, d.find? q.place ≠ some (.file c)

theorem Disk.Passes.unblocked {p : Path} (passes : d.Passes p) : Unblocked d p := by
  intro q front c stands
  rw [passes q front] at stands
  cases stands

theorem Unblocked.grown {p r : Path} {d' : Disk} (free : Unblocked d p) (grown : Grown r d d') :
    Unblocked d' p := by
  intro q front c stands
  rcases grown.each q.place with same | ⟨_, made, _⟩
  · exact free q front c (same.symm.trans stands)
  · rw [stands] at made
    cases made

theorem directoryReady (sound : d.Sound) (tidy : Tidy (front ++ [s])) (fits : Fits (front ++ [s]))
    (free : Unblocked d (front ++ [s])) {e : Cause} (failed : d.makeDirectory (front ++ [s]) = .error e)
    (found : e ≠ .notFound) (c : Cause) :
    ((if d.kind? (front ++ [s]) = some .directory then .ok () else .error c : Outcome Unit), d) = (.ok (), d) := by
  rw [if_pos (Disk.makeDirectoryTaken sound tidy fits free failed found)]

theorem ensureReady (sound : d.Sound) (tidy : Tidy (front ++ [s])) (fits : Fits (front ++ [s]))
    (free : Unblocked d (front ++ [s])) (passes : d.Passes front) :
    ∃ d', ensureDirectory (m := OnDisk) (front ++ [s]) d = (.ok (), d') := by
  rw [ensureStep]
  cases made : d.makeDirectory (front ++ [s]) with
  | ok d' => exact ⟨d', rfl⟩
  | error e =>
    refine ⟨d, directoryReady sound tidy fits free made ?_ e⟩
    rintro rfl
    obtain ⟨q, shorter, none⟩ := Disk.makeDirectoryMissing sound tidy made
    rw [passes q shorter] at none
    contradiction

theorem makeDirectoriesReady {n : Nat} {p : Path} (sound : d.Sound) (tidy : Tidy p) (deep : p.length < n)
    (fits : p ≠ [] → Fits p) (free : Unblocked d p) :
    ∃ d', makeDirectories (m := OnDisk) n p d = (.ok (), d') := by
  induction n generalizing p with
  | zero => omega
  | succ n ih =>
    rcases List.eq_nil_or_concat' p with rfl | ⟨front, s, rfl⟩
    · exact ⟨d, rfl⟩
    · have fits := fits (by simp)
      rw [makeDirectoriesStep n (by simp)]
      split
      · exact ⟨_, rfl⟩
      · rename_i missing
        obtain ⟨parent, tail, found, tidyParent, split, nowhere⟩ := missingParent sound tidy missing
        have front_ : parent <+: front ++ [s] := ⟨tail ++ [s], by rw [split, List.append_assoc]⟩
        have shorter : parent.length < n := by
          have whole := congrArg List.length split
          rw [List.length_append] at whole deep
          rw [List.length_singleton] at deep
          omega
        obtain ⟨between, up⟩ := ih tidyParent shorter (fun _ => fits.front front_)
          fun q shorter => free q (shorter.trans front_)
        have reached : Made parent d between := makeDirectoriesExtent sound tidyParent up
        rw [found]
        simp only [up]
        refine ensureReady reached.grown.sound tidy fits (free.grown reached.grown) ?_
        rw [split]
        exact reached.passes.appendNowhere nowhere
      · rename_i e other failed
        exact ⟨d, directoryReady sound tidy fits free failed (fun same => other same) e⟩

end Made

end Tabular.Storage

import Tabular.Proofs.Storage.Changes
import Tabular.Proofs.Storage.Layout
import Tabular.Storage.Output

/-! A folder with certain files and nothing else: what is found when it is listed and read, neither of which
changes anything. -/
namespace Tabular.Storage
open Tabular.Storage.Path (IsName)
open Disk (Fits Passes)

theorem nameBelowSome {p q : Place} {n : String} : Disk.nameBelow? p q = some n ↔ q = p ++ [n] := by
  unfold Disk.nameBelow?
  rcases List.eq_nil_or_concat' q with rfl | ⟨front, s, rfl⟩
  · simp
  · rw [List.getLast?_concat, List.dropLast_concat]
    by_cases same : front = p
    · simp [same]
    · simp [same]

theorem namesFound {d : Disk} (sound : d.Sound) {p : Path} (filled : p ≠ [])
    (there : d.kind? p = some .directory) :
    ∃ ns, d.names p = .ok ns ∧ ns.Nodup ∧ ∀ n, n ∈ ns ↔ d.find? (p.place ++ [n]) ≠ none := by
  obtain ⟨fits, whole⟩ := (Disk.kindDirectory sound filled).mp there
  obtain ⟨front, s, rfl⟩ := (List.eq_nil_or_concat' p).resolve_left filled
  have passes := Disk.passesConcat.mp whole
  have listed : d.names (front ++ [s]) =
      .ok ((d.entries.map (·.1)).filterMap (Disk.nameBelow? (Path.place (front ++ [s])))) := by
    rw [Disk.names, Disk.locateAt sound fits passes.1, passes.2, List.filterMap_map]
    rfl
  refine ⟨_, listed, ?_, fun n => ?_⟩
  · refine sound.distinct.filterMap fun p q n left right => ?_
    rw [nameBelowSome.mp left, nameBelowSome.mp right]
  · simp only [List.mem_filterMap, List.mem_map, nameBelowSome]
    constructor
    · rintro ⟨_, ⟨x, member, rfl⟩, place⟩
      obtain ⟨e, found⟩ := Disk.memFound member
      rw [← place, found]
      simp
    · intro taken
      obtain ⟨e, found⟩ := Option.ne_none_iff_exists'.mp taken
      exact ⟨_, ⟨_, Disk.findMem found (by simp), rfl⟩, rfl⟩

structure Holding (p : Path) (fs : List Write) (d : Disk) : Prop where
  sound : d.Sound
  named : ∀ f ∈ fs, Named f.1
  fits : ∀ f ∈ fs, Fits (p ++ f.1)
  passes : ∀ f ∈ fs, d.Passes (p ++ f.1.dropLast)
  files : ∀ q c, d.find? (p.place ++ q) = some (.file c) ↔ ∃ f ∈ fs, q = f.1 ∧ c = .text f.2
  folders : ∀ q, d.find? (p.place ++ q) = some .directory → ∃ f ∈ fs, q <+: f.1

section Holding
variable {d : Disk} {p : Path} {fs : List Write} (holding : Holding p fs d)
include holding

theorem Holding.text {f : Write} (member : f ∈ fs) : d.readText (p ++ f.1) = .ok f.2 := by
  obtain ⟨filled, names⟩ := holding.named f member
  have place : (p ++ f.1).place = p.place ++ f.1 := by rw [Path.placeAppend, Path.placeFromNames names]
  have stands := (holding.files f.1 (.text f.2)).mpr ⟨f, member, rfl, rfl⟩
  have passes := holding.passes f member
  rw [← List.dropLast_append_of_ne_nil filled] at passes
  rw [← place] at stands
  exact Disk.readTextAt holding.sound (by simp [filled]) (holding.fits f member) passes stands

section Place
variable {q : Path} (names : ∀ s ∈ q, IsName s) (filled : q ≠ [])
include names filled

theorem Holding.file : d.kind? (p ++ q) = some .file ↔ q ∈ paths fs := by
  have place : (p ++ q).place = p.place ++ q := by rw [Path.placeAppend, Path.placeFromNames names]
  rw [Disk.kindFile holding.sound (by simp [filled]), place, List.dropLast_append_of_ne_nil filled, paths,
    List.mem_map]
  constructor
  · rintro ⟨_, _, c, found⟩
    obtain ⟨f, member, same, _⟩ := (holding.files q c).mp found
    exact ⟨f, member, same.symm⟩
  · rintro ⟨f, member, rfl⟩
    have stands := (holding.files f.1 (.text f.2)).mpr ⟨f, member, rfl, rfl⟩
    exact ⟨holding.fits f member, holding.passes f member, _, stands⟩

theorem Holding.directory : d.kind? (p ++ q) = some .directory ↔ ∃ r ∈ paths fs, q <+: r ∧ q ≠ r := by
  have place : (p ++ q).place = p.place ++ q := by rw [Path.placeAppend, Path.placeFromNames names]
  have whole : p ++ q ≠ [] := by simp [filled]
  constructor
  · intro kind
    have file : q ∉ paths fs := by
      rw [← holding.file names filled, kind]
      simp
    have found := ((Disk.kindDirectory holding.sound whole).mp kind).2 _ (List.prefix_refl _)
    rw [place] at found
    obtain ⟨f, member, front⟩ := holding.folders q found
    exact ⟨f.1, pathsMem member, front, fun same => file (same ▸ pathsMem member)⟩
  · rintro ⟨r, path, front, other⟩
    obtain ⟨f, member, rfl⟩ := List.mem_map.mp path
    have short := (frontOrWhole front).resolve_right other
    have fits : Fits (p ++ q) := (holding.fits f member).front ((List.prefix_append_right_inj p).mpr front)
    have passes : d.Passes (p ++ q) :=
      (holding.passes f member).front ((List.prefix_append_right_inj p).mpr short)
    exact (Disk.kindDirectory holding.sound whole).mpr ⟨fits, passes⟩

theorem Holding.listed (there : d.kind? (p ++ q) = some .directory) :
    ∃ ns, d.names (p ++ q) = .ok ns ∧ ns.Nodup ∧ ∀ n, n ∈ ns ↔ ∃ r ∈ paths fs, q ++ [n] <+: r := by
  have place : (p ++ q).place = p.place ++ q := by rw [Path.placeAppend, Path.placeFromNames names]
  obtain ⟨ns, listed, distinct, each⟩ := namesFound holding.sound (by simp [filled]) there
  simp only [place, List.append_assoc] at each
  refine ⟨ns, listed, distinct, fun n => (each n).trans ⟨fun taken => ?_, ?_⟩⟩
  · obtain ⟨e, stands⟩ := Option.ne_none_iff_exists'.mp taken
    cases e with
    | directory =>
      obtain ⟨f, member, front⟩ := holding.folders _ stands
      exact ⟨f.1, pathsMem member, front⟩
    | file c =>
      obtain ⟨f, member, same, _⟩ := (holding.files _ c).mp stands
      exact ⟨f.1, pathsMem member, same ▸ List.prefix_refl _⟩
  · rintro ⟨r, path, front⟩ free
    obtain ⟨f, member, rfl⟩ := List.mem_map.mp path
    have stands := (holding.files f.1 (.text f.2)).mpr ⟨f, member, rfl, rfl⟩
    rw [holding.sound.nothingBelow free ((List.prefix_append_right_inj _).mpr front)] at stands
    cases stands

end Place
end Holding

def Disk.Yields {ε α : Type} (d : Disk) (work : ExceptT ε OnDisk α) (v : α) : Prop := d.run work = (.ok v, d)

section Yields
variable {d : Disk} {ε α β : Type}

theorem Disk.Yields.pure (v : α) : d.Yields (Pure.pure v : ExceptT ε OnDisk α) v := rfl

theorem Disk.Yields.bind {x : ExceptT ε OnDisk α} {f : α → ExceptT ε OnDisk β} {a : α} {b : β}
    (first : d.Yields x a) (next : d.Yields (f a) b) : d.Yields (x >>= f) b := by
  unfold Disk.Yields at *
  rw [runThen, first]
  exact next

theorem directoryYields (p : Path) :
    d.Yields (liftM (isDirectory (m := OnDisk) p) : ExceptT ε OnDisk Bool)
      (decide (d.kind? p = some .directory)) := rfl

theorem fileYields (p : Path) :
    d.Yields (liftM (isFile (m := OnDisk) p) : ExceptT ε OnDisk Bool) (decide (d.kind? p = some .file)) := rfl

theorem namesYield {p : Path} {ns : List String} (found : d.names p = .ok ns) (fault : Cause → ε) :
    d.Yields (explain fault (Files.names (m := OnDisk) p)) ns := by
  rw [Disk.Yields, runExplain]
  simp only [Files.names, found]
  rfl

theorem filterYields {f : α → ExceptT ε OnDisk Bool} {g : α → Bool} {xs : List α}
    (each : ∀ x, d.Yields (f x) (g x)) : d.Yields (xs.filterM f) (xs.filter g) := by
  have step (kept : List α) : d.Yields (xs.filterAuxM f kept) ((xs.filter g).reverse ++ kept) := by
    induction xs generalizing kept with
    | nil => exact .pure kept
    | cons x xs ih =>
      refine (each x).bind ?_
      have rest := ih (cond (g x) (x :: kept) kept)
      cases known : g x
      · simpa [known] using rest
      · simpa [known] using rest
  have whole := step []
  rw [List.append_nil] at whole
  exact List.reverse_reverse (xs.filter g) ▸ whole.bind (.pure _)

theorem textsYield {ps : List Path} {texts : List String}
    (each : List.Forall₂ (fun p t => d.readText p = .ok t) ps texts) :
    d.Yields (readFiles ps) (String.join (texts.map (· ++ "\n"))) := by
  have read : d.Yields (ps.mapM fun p => readText (m := OnDisk) p) texts := by
    induction each with
    | nil => exact .pure []
    | @cons p t ps texts first _ ih =>
      rw [List.mapM_cons]
      refine Disk.Yields.bind (a := t) ?_ (ih.bind (.pure _))
      rw [Disk.Yields, readText, runExplain]
      simp only [Files.readText, first]
      rfl
  exact read.bind (.pure _)

theorem filesYield {p : Path} {ns : List String} (there : d.kind? p = some .directory)
    (found : d.names p = .ok ns) :
    d.Yields (definitionFilesIn p)
      (((ns.filter fun n => Path.extension? [n] = some "tmdl").mergeSort (fun a b => decide (a ≤ b))).map
        fun n => p.join [n]) := by
  refine (directoryYields p).bind ?_
  rw [decide_eq_true there]
  exact (namesYield found _).bind (.pure _)

theorem noFilesYield {p : Path} (absent : d.kind? p ≠ some .directory) : d.Yields (definitionFilesIn p) [] := by
  refine (directoryYields p).bind ?_
  rw [decide_eq_false absent]
  exact .pure []

theorem folderYields {p root : Path} {tables roles : List Path}
    (start : (if d.kind? (p.join ["definition"]) = some .directory then p.join ["definition"] else p) = root)
    (first : d.Yields (definitionFilesIn (root.join ["tables"])) tables)
    (last : d.Yields (definitionFilesIn (root.join ["roles"])) roles) :
    d.Yields (folderFiles p) ([root.join ["model.tmdl"]] ++ tables
      ++ ([["relationships.tmdl"], ["hierarchies.tmdl"]].filter fun name =>
        decide (d.kind? (root.join name) = some .file)).map root.join ++ roles) := by
  refine (directoryYields _).bind ?_
  have chosen : (if decide (d.kind? (p.join ["definition"]) = some .directory) = true then p.join ["definition"]
      else p) = root := by simpa using start
  rw [chosen]
  exact first.bind ((filterYields fun name => fileYields (root.join name)).bind (last.bind (.pure _)))

theorem folderRead {p : Path} {ps : List Path} {texts : List String} {doc : Definition.Outline}
    (found : d.Yields (folderFiles p) ps) (each : List.Forall₂ (fun p t => d.readText p = .ok t) ps texts)
    (read : Definition.read (String.join (texts.map (· ++ "\n"))) = .ok doc) :
    d.run (readFolder p) = (.ok doc, d) := by
  have whole : d.Yields (folderFiles p >>= fun ps => readFiles ps) (String.join (texts.map (· ++ "\n"))) :=
    found.bind (textsYield each)
  have ran : ExceptT.run (folderFiles (m := OnDisk) p >>= fun ps => readFiles ps) d =
    (.ok (String.join (texts.map (· ++ "\n"))), d) := whole
  unfold Disk.run readFolder
  rw [ExceptT.run_mk, runBind, ran]
  simp only [read]
  rfl

end Yields

end Tabular.Storage

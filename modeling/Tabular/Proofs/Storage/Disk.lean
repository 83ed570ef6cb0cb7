import Tabular.Proofs.Storage.Path

/-! A disk that is a tree. What stands at a place decides what every operation on a path does, and each
operation leaves a tree. -/
namespace Tabular.Storage
open Tabular.Storage.Path (IsName step placeFrom leadsNowhere)

namespace Disk

structure Sound (d : Disk) : Prop where
  distinct : (d.entries.map (·.1)).Nodup
  above : ∀ x ∈ d.entries, x.1 ≠ [] ∧ d.find? x.1.dropLast = some .directory

theorem lookupFilter (keep : Place → Bool) (entries : List (Place × Entry)) (q : Place) :
    (entries.filter fun x => keep x.1).lookup q = if keep q then entries.lookup q else none := by
  induction entries with
  | nil => simp
  | cons x entries ih =>
    obtain ⟨p, e⟩ := x
    by_cases same : q = p
    · subst same
      cases kept : keep q <;> simp [kept, ih]
    · have other : (q == p) = false := by simpa using same
      cases kept : keep p <;> simp [List.lookup_cons, kept, other, ih]

theorem findRoot (d : Disk) : d.find? [] = some .directory := by simp [find?]

theorem findPut {d : Disk} {p q : Place} {e : Entry} (notRoot : p ≠ []) :
    (d.put p e).find? q = if q = p then some e else d.find? q := by
  have filtered := lookupFilter (fun x => decide (x ≠ p)) d.entries q
  by_cases root : q = []
  · subst root
    rw [findRoot, findRoot, if_neg (Ne.symm notRoot)]
  · by_cases same : q = p
    · subst same
      simp [find?, put, root]
    · have other : (q == p) = false := by simpa using same
      simp only [find?, put, root, if_false, List.lookup_cons, other, same]
      rw [filtered]
      simp [same]

theorem findPrune {d : Disk} {p q : Place} :
    (d.prune p).find? q = if q ≠ [] ∧ p <+: q then none else d.find? q := by
  have filtered := lookupFilter (fun x => !p.isPrefixOf x) d.entries q
  by_cases root : q = []
  · simp [find?, root]
  · simp only [find?, prune, root, if_false]
    rw [filtered]
    by_cases below : p <+: q
    · have prefixed := List.isPrefixOf_iff_prefix.mpr below
      simp [below, root, prefixed]
    · have apart : p.isPrefixOf q = false := by
        cases h : p.isPrefixOf q
        · rfl
        · exact absurd (List.isPrefixOf_iff_prefix.mp h) below
      simp [below, apart]

theorem findMem {d : Disk} {q : Place} {e : Entry} (found : d.find? q = some e) (notRoot : q ≠ []) :
    (q, e) ∈ d.entries := by
  rw [find?, if_neg notRoot, List.lookup_eq_some_iff] at found
  obtain ⟨before, after, split, _⟩ := found
  rw [split]
  simp

theorem memFound {d : Disk} {x : Place × Entry} (member : x ∈ d.entries) : ∃ e, d.find? x.1 = some e := by
  by_cases root : x.1 = []
  · exact ⟨.directory, by rw [root, findRoot]⟩
  · refine Option.ne_none_iff_exists'.mp fun none => ?_
    rw [find?, if_neg root, List.lookup_eq_none_iff] at none
    simpa using none x member

theorem Sound.parent {d : Disk} (sound : d.Sound) {q : Place} {e : Entry} (found : d.find? q = some e) :
    d.find? q.dropLast = some .directory := by
  by_cases root : q = []
  · rw [root]
    exact findRoot d
  · exact (sound.above _ (findMem found root)).2

theorem Sound.directoryAbove {d : Disk} (sound : d.Sound) {p q : Place} {e : Entry} (found : d.find? q = some e)
    (below : p <+: q) (other : p ≠ q) : d.find? p = some .directory := by
  obtain ⟨tail, rfl⟩ := below
  induction tail using List.reverseRecOn generalizing e with
  | nil => simp at other
  | append_singleton tail s ih =>
    have up := sound.parent found
    rw [← List.append_assoc, List.dropLast_concat] at up
    by_cases last : tail = []
    · simpa [last] using up
    · exact ih up (by simpa using last)

theorem Sound.nothingBelow {d : Disk} (sound : d.Sound) {p q : Place} (free : d.find? p = none)
    (below : p <+: q) : d.find? q = none := by
  cases found : d.find? q with
  | none => rfl
  | some e =>
    by_cases same : p = q
    · rw [same, found] at free
      contradiction
    · rw [sound.directoryAbove found below same] at free
      contradiction

theorem Sound.put {d : Disk} (sound : d.Sound) {p : Place} {e : Entry} (notRoot : p ≠ [])
    (parent : d.find? p.dropLast = some .directory)
    (harmless : e = .directory ∨ d.find? p ≠ some .directory) : (d.put p e).Sound := by
  -- a directory that something may stand below is never replaced
  have stays {q : Place} (found : d.find? q = some .directory) : (d.put p e).find? q = some .directory := by
    rw [findPut notRoot]
    by_cases same : q = p
    · subst same
      rw [if_pos rfl]
      rcases harmless with rfl | other
      · rfl
      · exact absurd found other
    · rw [if_neg same, found]
  refine ⟨?_, fun x member => ?_⟩
  · rw [Disk.put, List.map_cons, List.nodup_cons]
    refine ⟨?_, sound.distinct.sublist (List.filter_sublist.map _)⟩
    simp
  · rcases List.mem_cons.mp member with rfl | old
    · exact ⟨notRoot, stays parent⟩
    · have known := sound.above x (List.mem_of_mem_filter old)
      exact ⟨known.1, stays known.2⟩

theorem Sound.prune {d : Disk} (sound : d.Sound) (p : Place) : (d.prune p).Sound := by
  refine ⟨sound.distinct.sublist (List.filter_sublist.map _), fun x member => ?_⟩
  have known := sound.above x (List.mem_of_mem_filter member)
  have apart : ¬ p <+: x.1 := fun below => by
    have kept := List.of_mem_filter member
    simp [List.isPrefixOf_iff_prefix.mpr below] at kept
  refine ⟨known.1, ?_⟩
  rw [findPrune, if_neg, known.2]
  rintro ⟨_, below⟩
  exact apart (below.trans (List.dropLast_prefix _))

theorem walkStep {d : Disk} (sound : d.Sound) {here : Place} (start : d.find? here = some .directory)
    (s : String) (rest : Path) : d.walk here (s :: rest) =
      if nameLimit < s.utf8ByteSize then .error .nameTooLong
      else match d.find? (step here s) with
        | some .directory => d.walk (step here s) rest
        | some (.file c) => if rest = [] then .ok (step here s, some (.file c)) else .error .notDirectory
        | none => if rest = [] then .ok (step here s, none) else .error .notFound := by
  rw [walk]
  by_cases nowhere : leadsNowhere s = true
  · have short : ¬ nameLimit < s.utf8ByteSize := by
      have known : s = "" ∨ s = "." := by simpa [leadsNowhere] using nowhere
      rcases known with rfl | rfl <;> decide
    have stays : step here s = here := by simp [step, nowhere]
    rw [if_pos nowhere, if_neg short, stays, start]
  · by_cases up : s = ".."
    · subst up
      have climbs : step here ".." = here.dropLast := by simp [step, leadsNowhere]
      rw [if_neg nowhere, if_pos rfl, if_neg (by decide), climbs, sound.parent start]
    · have name : step here s = here ++ [s] := by simp [step, nowhere, up]
      rw [if_neg nowhere, if_neg up]
      exact name ▸ rfl

def PassesFrom (d : Disk) (here : Place) (p : Path) : Prop :=
  ∀ q, q <+: p → q ≠ p → d.find? (placeFrom here q) = some .directory

theorem passesFromCons {d : Disk} {here : Place} {s : String} {rest : Path} :
    d.PassesFrom here (s :: rest) ↔
      d.find? here = some .directory ∧ d.PassesFrom (step here s) rest := by
  constructor
  · intro passes
    refine ⟨passes [] List.nil_prefix (by simp), fun q front other => ?_⟩
    exact passes (s :: q) (by simpa using front) (by simpa using other)
  · rintro ⟨start, later⟩ q front other
    cases q with
    | nil => exact start
    | cons t q =>
      obtain ⟨rfl, shorter⟩ := List.cons_prefix_cons.mp front
      exact later q shorter (by simpa using other)

theorem passesFromHere {d : Disk} {here : Place} {p : Path} (passes : d.PassesFrom here p) (filled : p ≠ []) :
    d.find? here = some .directory := passes [] List.nil_prefix (Ne.symm filled)

theorem walkOk {d : Disk} (sound : d.Sound) {here : Place} (start : d.find? here = some .directory)
    {p : Path} {reached : Place} {e : Option Entry} : d.walk here p = .ok (reached, e) ↔
      (∀ s ∈ p, s.utf8ByteSize ≤ nameLimit) ∧ d.PassesFrom here p ∧ reached = placeFrom here p ∧
        e = d.find? (placeFrom here p) := by
  induction p generalizing here with
  | nil =>
    have whole : d.PassesFrom here [] := fun q front other => absurd (List.prefix_nil.mp front) other
    simp [walk, whole, placeFrom, start, eq_comm]
  | cons s rest ih =>
    have whole : placeFrom here (s :: rest) = placeFrom (step here s) rest := rfl
    rw [walkStep sound start, passesFromCons, List.forall_mem_cons, whole, ← Nat.not_lt]
    by_cases long : nameLimit < s.utf8ByteSize
    · simp [long]
    · simp only [long, if_false, not_false_eq_true, true_and, start]
      by_cases last : rest = []
      · subst last
        have none : d.PassesFrom (step here s) [] := fun q front other =>
          absurd (List.prefix_nil.mp front) other
        cases found : d.find? (step here s) with
        | none => simp [placeFrom, found, none, eq_comm]
        | some e => cases e <;> simp [walk, placeFrom, found, none, eq_comm]
      · cases found : d.find? (step here s) with
        | none =>
          simp only [last, if_false, reduceCtorEq, false_iff]
          rintro ⟨_, passes, _⟩
          simp [passesFromHere passes last] at found
        | some e =>
          cases e with
          | directory => exact ih found
          | file c =>
            simp only [last, if_false, reduceCtorEq, false_iff]
            rintro ⟨_, passes, _⟩
            simp [passesFromHere passes last] at found

theorem walkMissing {d : Disk} (sound : d.Sound) {here : Place} (start : d.find? here = some .directory)
    {p : Path} (missing : d.walk here p = .error .notFound) :
    ∃ q, q <+: p ∧ q ≠ p ∧ d.find? (placeFrom here q) = none := by
  induction p generalizing here with
  | nil => simp [walk] at missing
  | cons s rest ih =>
    rw [walkStep sound start] at missing
    split at missing
    · contradiction
    · split at missing
      · rename_i found
        obtain ⟨q, front, other, free⟩ := ih found missing
        exact ⟨s :: q, by simpa using front, by simpa using other, free⟩
      · split at missing <;> contradiction
      · rename_i free
        split at missing
        · contradiction
        · rename_i more
          exact ⟨[s], ⟨rest, rfl⟩, by simpa using Ne.symm more, free⟩

theorem walkFree {d : Disk} (sound : d.Sound) {here : Place} (start : d.find? here = some .directory)
    {p : Path} (names : ∀ s ∈ p, s.utf8ByteSize ≤ nameLimit)
    (free : ∀ q, q <+: p → ∀ c, d.find? (placeFrom here q) ≠ some (.file c)) {e : Cause}
    (failed : d.walk here p = .error e) : e = .notFound := by
  induction p generalizing here with
  | nil => simp [walk] at failed
  | cons s rest ih =>
    obtain ⟨first, later⟩ := List.forall_mem_cons.mp names
    rw [walkStep sound start, if_neg (Nat.not_lt.mpr first)] at failed
    split at failed
    · rename_i found
      exact ih found later (fun q front => free (s :: q) (by simpa using front)) failed
    · rename_i c found
      exact absurd found (free [s] (by simp) c)
    · split at failed
      · contradiction
      · exact (Except.error.inj failed).symm

structure Fits (p : Path) : Prop where
  names : ∀ s ∈ p, s.utf8ByteSize ≤ nameLimit
  text : p.text.utf8ByteSize ≤ pathLimit
  plain : '\x00' ∉ p.text.toList

theorem Fits.front {p q : Path} (fits : Fits p) (front : q <+: p) : Fits q := by
  obtain ⟨rest, split⟩ := Path.textPrefix front
  have text := fits.text
  have plain := fits.plain
  rw [split] at text plain
  rw [String.utf8ByteSize_append] at text
  rw [String.toList_append, List.mem_append, not_or] at plain
  exact ⟨fun s mem => fits.names s (front.subset mem), by omega, plain.1⟩

theorem locateOk {d : Disk} (sound : d.Sound) {p : Path} {reached : Place} {e : Option Entry} :
    d.locate p = .ok (reached, e) ↔
      p ≠ [] ∧ Fits p ∧ d.PassesFrom [] p ∧ reached = p.place ∧ e = d.find? p.place := by
  unfold locate
  by_cases empty : p = []
  · simp [empty]
  · by_cases control : '\x00' ∈ p.text.toList
    · rw [if_neg empty, if_pos control]
      refine iff_of_false (by simp) ?_
      rintro ⟨_, fits, _⟩
      exact fits.plain control
    · by_cases long : pathLimit < p.text.utf8ByteSize
      · rw [if_neg empty, if_neg control, if_pos long]
        refine iff_of_false (by simp) ?_
        rintro ⟨_, fits, _⟩
        exact absurd fits.text (Nat.not_le.mpr long)
      · rw [if_neg empty, if_neg control, if_neg long, walkOk sound (findRoot d)]
        constructor
        · rintro ⟨names, found⟩
          exact ⟨empty, ⟨names, Nat.not_lt.mp long, control⟩, found⟩
        · rintro ⟨_, fits, found⟩
          exact ⟨fits.names, found⟩

theorem locateMissing {d : Disk} (sound : d.Sound) {p : Path} (filled : p ≠ [])
    (missing : d.locate p = .error .notFound) : ∃ q : Path, q <+: p ∧ q ≠ p ∧ d.find? q.place = none := by
  unfold locate at missing
  rw [if_neg filled] at missing
  split at missing
  · contradiction
  · split at missing
    · contradiction
    · exact walkMissing sound (findRoot d) missing

theorem locateFree {d : Disk} (sound : d.Sound) {p : Path} (fits : Fits p)
    (free : ∀ q : Path, q <+: p → ∀ c, d.find? q.place ≠ some (.file c)) {e : Cause}
    (failed : d.locate p = .error e) : e = .notFound := by
  unfold locate at failed
  split at failed
  · exact (Except.error.inj failed).symm
  · rw [if_neg fits.plain, if_neg (Nat.not_lt.mpr fits.text)] at failed
    exact walkFree sound (findRoot d) fits.names free failed

/-- Every place that the path passes, its end too, is a directory. -/
def Passes (d : Disk) (p : Path) : Prop := ∀ q : Path, q <+: p → d.find? q.place = some .directory

theorem passesNil (d : Disk) : d.Passes [] := by
  intro q front
  rw [List.prefix_nil.mp front]
  exact findRoot d

theorem passesConcat {d : Disk} {p : Path} {s : String} :
    d.Passes (p ++ [s]) ↔ d.Passes p ∧ d.find? (p ++ [s]).place = some .directory := by
  constructor
  · intro passes
    exact ⟨fun q front => passes q (front.trans (List.prefix_append ..)), passes _ (List.prefix_refl _)⟩
  · rintro ⟨passes, last⟩ q front
    rcases List.prefix_concat_iff.mp front with rfl | shorter
    · exact last
    · exact passes q shorter

theorem passesFromConcat {d : Disk} {p : Path} {s : String} : d.PassesFrom [] (p ++ [s]) ↔ d.Passes p := by
  constructor
  · intro passes q front
    refine passes q (front.trans (List.prefix_append ..)) ?_
    rintro rfl
    have longer := front.length_le
    rw [List.length_append, List.length_singleton] at longer
    omega
  · intro passes q front other
    exact passes q ((List.prefix_concat_iff.mp front).resolve_left other)

theorem Passes.front {d : Disk} {p q : Path} (passes : d.Passes p) (front : q <+: p) : d.Passes q :=
  fun r shorter => passes r (shorter.trans front)

theorem Passes.appendNowhere {d : Disk} {p tail : Path} (passes : d.Passes p)
    (nowhere : ∀ t ∈ tail, leadsNowhere t = true) : d.Passes (p ++ tail) := by
  induction tail using List.reverseRecOn with
  | nil => simpa using passes
  | append_singleton tail t ih =>
    have shorter := ih fun t mem => nowhere t (by simp [mem])
    rw [← List.append_assoc, passesConcat]
    refine ⟨shorter, ?_⟩
    have stays : (p ++ tail ++ [t]).place = (p ++ tail).place := by
      rw [Path.placeAppend (p ++ tail), Path.placeFromNowhere (by simpa using nowhere t (by simp))]
    rw [stays]
    exact shorter _ (List.prefix_refl _)

section Operations
variable {d : Disk} (sound : d.Sound) {front : Path} {s : String}
include sound

theorem locateAt (fits : Fits (front ++ [s])) (passes : d.Passes front) :
    d.locate (front ++ [s]) = .ok ((front ++ [s]).place, d.find? (front ++ [s]).place) :=
  (locateOk sound).mpr ⟨by simp, fits, passesFromConcat.mpr passes, rfl, rfl⟩

theorem locateBack {reached : Place} {e : Option Entry} (found : d.locate (front ++ [s]) = .ok (reached, e)) :
    Fits (front ++ [s]) ∧ d.Passes front ∧ reached = (front ++ [s]).place ∧ e = d.find? (front ++ [s]).place := by
  obtain ⟨_, fits, passes, place, entry⟩ := (locateOk sound).mp found
  exact ⟨fits, passesFromConcat.mp passes, place, entry⟩

theorem kindDirectory {p : Path} (filled : p ≠ []) : d.kind? p = some .directory ↔ Fits p ∧ d.Passes p := by
  obtain ⟨front, s, rfl⟩ := (List.eq_nil_or_concat' p).resolve_left filled
  rw [passesConcat]
  constructor
  · intro kind
    unfold kind? at kind
    split at kind
    · rename_i found
      obtain ⟨fits, passes, _, entry⟩ := locateBack sound found
      exact ⟨fits, passes, entry.symm⟩
    · contradiction
    · contradiction
  · rintro ⟨fits, passes, entry⟩
    rw [kind?, locateAt sound fits passes, entry]

theorem kindFile {p : Path} (filled : p ≠ []) : d.kind? p = some .file ↔
    Fits p ∧ d.Passes p.dropLast ∧ ∃ c, d.find? p.place = some (.file c) := by
  obtain ⟨front, s, rfl⟩ := (List.eq_nil_or_concat' p).resolve_left filled
  rw [List.dropLast_concat]
  constructor
  · intro kind
    unfold kind? at kind
    split at kind
    · contradiction
    · rename_i c found
      obtain ⟨fits, passes, _, entry⟩ := locateBack sound found
      exact ⟨fits, passes, c, entry.symm⟩
    · contradiction
  · rintro ⟨fits, passes, c, entry⟩
    rw [kind?, locateAt sound fits passes, entry]

theorem kindNone {p : Path} (filled : p ≠ []) (kind : d.kind? p = none) (fits : Fits p)
    (passes : d.Passes p.dropLast) : d.find? p.place = none := by
  obtain ⟨front, s, rfl⟩ := (List.eq_nil_or_concat' p).resolve_left filled
  rw [List.dropLast_concat] at passes
  rw [kind?, locateAt sound fits passes] at kind
  cases found : d.find? (Path.place (front ++ [s])) with
  | none => rfl
  | some e => cases e <;> simp [found] at kind

theorem makeDirectoryOk (tidy : Path.Tidy (front ++ [s])) {d' : Disk} :
    d.makeDirectory (front ++ [s]) = .ok d' ↔ Fits (front ++ [s]) ∧ d.Passes front ∧
      d.find? (front ++ [s]).place = none ∧ d' = d.put (front ++ [s]).place .directory := by
  unfold makeDirectory
  rw [tidy.noSlash]
  constructor
  · intro made
    cases found : d.locate (front ++ [s]) with
    | error e => rw [found] at made; contradiction
    | ok at_ =>
      obtain ⟨reached, entry⟩ := at_
      obtain ⟨fits, passes, place, same⟩ := locateBack sound found
      rw [found] at made
      cases entry with
      | some e => contradiction
      | none =>
        cases Except.ok.inj made
        exact ⟨fits, passes, same.symm, by rw [place]⟩
  · rintro ⟨fits, passes, free, rfl⟩
    rw [locateAt sound fits passes, free]
    rfl

theorem makeDirectoryTaken (tidy : Path.Tidy (front ++ [s])) (fits : Fits (front ++ [s]))
    (free : ∀ q : Path, q <+: front ++ [s] → ∀ c, d.find? q.place ≠ some (.file c)) {e : Cause}
    (failed : d.makeDirectory (front ++ [s]) = .error e) (found : e ≠ .notFound) :
    d.kind? (front ++ [s]) = some .directory := by
  unfold makeDirectory at failed
  rw [tidy.noSlash] at failed
  cases located : d.locate (front ++ [s]) with
  | error c =>
    rw [located] at failed
    cases Except.error.inj failed
    exact absurd (locateFree sound fits free located) found
  | ok at_ =>
    obtain ⟨reached, entry⟩ := at_
    obtain ⟨_, passes, _, same⟩ := locateBack sound located
    rw [located] at failed
    cases entry with
    | none => contradiction
    | some e =>
      rw [kindDirectory sound (by simp), passesConcat]
      refine ⟨fits, passes, ?_⟩
      cases e with
      | directory => exact same.symm
      | file c => exact absurd same.symm (free _ (List.prefix_refl _) c)

theorem makeDirectoryMissing (tidy : Path.Tidy (front ++ [s]))
    (missing : d.makeDirectory (front ++ [s]) = .error .notFound) :
    ∃ q : Path, q <+: front ∧ d.find? q.place = none := by
  unfold makeDirectory at missing
  rw [tidy.noSlash] at missing
  cases found : d.locate (front ++ [s]) with
  | error e =>
    rw [found] at missing
    cases Except.error.inj missing
    obtain ⟨q, shorter, other, free⟩ := locateMissing sound (by simp) found
    exact ⟨q, (List.prefix_concat_iff.mp shorter).resolve_left other, free⟩
  | ok at_ =>
    obtain ⟨reached, entry⟩ := at_
    rw [found] at missing
    cases entry with
    | none => contradiction
    | some e =>
      change Except.error Cause.alreadyThere = _ at missing
      contradiction

theorem writeOk (name : IsName s) {c : Content} {d' : Disk} :
    d.write (front ++ [s]) c = .ok d' ↔ Fits (front ++ [s]) ∧ d.Passes front ∧
      d.find? (front ++ [s]).place ≠ some .directory ∧ d' = d.put (front ++ [s]).place (.file c) := by
  have tidy : Path.Tidy (front ++ [s]) := .appendName name.leads
  have last : ¬ (front ++ [s]).getLast? = some "" := by
    rw [List.getLast?_concat]
    rintro same
    cases Option.some.inj same
    simpa [leadsNowhere] using name.leads
  unfold write
  rw [tidy.noSlash]
  constructor
  · intro written
    cases found : d.locate (front ++ [s]) with
    | error e => rw [found] at written; contradiction
    | ok at_ =>
      obtain ⟨reached, entry⟩ := at_
      obtain ⟨fits, passes, rfl, rfl⟩ := locateBack sound found
      rw [found] at written
      refine ⟨fits, passes, ?_⟩
      cases there : d.find? (front ++ [s]).place with
      | none =>
        simp only [there, bind, Except.bind, last, if_false] at written
        exact ⟨by simp, (Except.ok.inj written).symm⟩
      | some e =>
        cases e with
        | directory => simp only [there, bind, Except.bind] at written; contradiction
        | file c =>
          simp only [there, bind, Except.bind, last, if_false] at written
          exact ⟨by simp, (Except.ok.inj written).symm⟩
  · rintro ⟨fits, passes, free, rfl⟩
    rw [locateAt sound fits passes]
    cases there : d.find? (front ++ [s]).place with
    | none => simp only [bind, Except.bind, last, if_false]; rfl
    | some e =>
      cases e with
      | directory => exact absurd there free
      | file c => simp only [bind, Except.bind, last, if_false]; rfl

theorem readTextAt {p : Path} (filled : p ≠ []) (fits : Fits p) (passes : d.Passes p.dropLast) {t : String}
    (stands : d.find? p.place = some (.file (.text t))) : d.readText p = .ok t := by
  obtain ⟨front, s, rfl⟩ := (List.eq_nil_or_concat' p).resolve_left filled
  rw [List.dropLast_concat] at passes
  rw [readText, locateAt sound fits passes, stands]
  rfl

end Operations

end Disk
end Tabular.Storage

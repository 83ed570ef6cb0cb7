import Mathlib.Data.List.DropRight
import Tabular.Storage.Disk

/-! The place a path ends at when all that it passes is there, and what its parent and its text have to
do with that. -/
namespace Tabular.Storage
namespace Path

def step (here : Place) (s : String) : Place :=
  if leadsNowhere s then here else if s = ".." then here.dropLast else here ++ [s]

def placeFrom (here : Place) (p : Path) : Place := p.foldl step here

def place (p : Path) : Place := placeFrom [] p

structure IsName (s : String) : Prop where
  leads : leadsNowhere s = false
  notUp : s ≠ ".."

theorem stepName {s : String} (name : IsName s) (here : Place) : step here s = here ++ [s] := by
  simp [step, name.leads, name.notUp]

theorem placeFromAppend (here : Place) (p q : Path) :
    placeFrom here (p ++ q) = placeFrom (placeFrom here p) q := List.foldl_append

theorem placeAppend (p q : Path) : (p ++ q).place = placeFrom p.place q := placeFromAppend [] p q

theorem placeFromNames {q : Path} (names : ∀ s ∈ q, IsName s) (here : Place) :
    placeFrom here q = here ++ q := by
  induction q generalizing here with
  | nil => simp [placeFrom]
  | cons s q ih =>
    obtain ⟨first, rest⟩ := List.forall_mem_cons.mp names
    change placeFrom (step here s) q = _
    rw [stepName first, ih rest, List.append_assoc]
    rfl

theorem placeFromNowhere {q : Path} (nowhere : ∀ s ∈ q, leadsNowhere s = true) (here : Place) :
    placeFrom here q = here := by
  induction q with
  | nil => rfl
  | cons s q ih =>
    obtain ⟨first, rest⟩ := List.forall_mem_cons.mp nowhere
    have stays : step here s = here := by simp [step, first]
    change placeFrom (step here s) q = here
    rw [stays, ih rest]

theorem placeFromStraight {q : Path} (straight : ".." ∉ q) (here : Place) : here <+: placeFrom here q := by
  induction q generalizing here with
  | nil => exact List.prefix_refl here
  | cons s q ih =>
    obtain ⟨notUp, later⟩ := not_or.mp (mt List.mem_cons.mpr straight)
    have first : here <+: step here s := by
      unfold step
      split
      · exact List.prefix_refl here
      · rw [if_neg (Ne.symm notUp)]
        exact List.prefix_append here [s]
    exact first.trans (ih later _)

theorem placeStraight {p q : Path} (straight : ".." ∉ p) (front : q <+: p) : q.place <+: p.place := by
  obtain ⟨rest, rfl⟩ := front
  rw [placeAppend]
  exact placeFromStraight (fun member => straight (List.mem_append_right q member)) _

theorem joinSplit (p q : Path) : p.join q = p.join [] ++ q := by
  unfold join
  split <;> simp

theorem joinNilSplit (p : Path) : ∃ tail, p = p.join [] ++ tail ∧ ∀ s ∈ tail, leadsNowhere s = true := by
  unfold join
  split
  · rename_i slash
    obtain ⟨front, rfl⟩ := List.getLast?_eq_some_iff.mp slash
    exact ⟨[""], by simp, by simp [leadsNowhere]⟩
  · exact ⟨[], by simp, by simp⟩

theorem joinNilPlace (p : Path) : (p.join []).place = p.place := by
  obtain ⟨tail, split, nowhere⟩ := joinNilSplit p
  calc (p.join []).place
    _ = placeFrom (p.join []).place tail := (placeFromNowhere nowhere _).symm
    _ = p.place := by rw [← placeAppend, ← split]

theorem joinNilPrefix (p : Path) : p.join [] <+: p := by
  obtain ⟨tail, split, _⟩ := joinNilSplit p
  exact ⟨tail, split.symm⟩

theorem joinName {s : String} (name : IsName s) (p q : Path) : (p.join [s]).join q = p.join [s] ++ q := by
  have last : (p.join [s]).getLast? ≠ some "" := by
    rw [joinSplit, List.getLast?_concat]
    rintro same
    cases Option.some.inj same
    simpa [leadsNowhere] using name.leads
  rw [join, if_neg last]

theorem joinPlace (p : Path) {q : Path} (names : ∀ s ∈ q, IsName s) : (p.join q).place = p.place ++ q := by
  rw [joinSplit, placeAppend, joinNilPlace, placeFromNames names]

/- A path is tidy if no segment at its end leads nowhere; a lone first segment may. -/
structure Tidy (p : Path) : Prop where
  ends : p.trimmed = p
  notRoot : p ≠ [""]

theorem dropEndLast (p : Path) : ∀ s ∈ (dropEnd p).getLast?, leadsNowhere s = false := by
  intro s last
  have filled : List.rdropWhile leadsNowhere p ≠ [] := by
    intro none
    change s ∈ (List.rdropWhile leadsNowhere p).getLast? at last
    rw [none] at last
    cases last
  have kept := List.rdropWhile_last_not leadsNowhere p filled
  have same : s = (List.rdropWhile leadsNowhere p).getLast filled := by
    have found : some s = (List.rdropWhile leadsNowhere p).getLast? := (Option.mem_def.mp last).symm
    rw [List.getLast?_eq_some_getLast filled] at found
    exact Option.some.inj found
  rw [same]
  simpa using kept

theorem dropEndFixed {p : Path} : dropEnd p = p ↔ ∀ s ∈ p.getLast?, leadsNowhere s = false := by
  constructor
  · intro same
    rw [← same]
    exact dropEndLast p
  · intro last
    refine List.rdropWhile_eq_self_iff.mpr fun filled => ?_
    simp [last _ (List.getLast?_eq_some_getLast filled)]

theorem dropEndSplit (p : Path) : ∃ tail, p = dropEnd p ++ tail ∧ ∀ s ∈ tail, leadsNowhere s = true := by
  refine ⟨List.rtakeWhile leadsNowhere p, List.rdropWhile_append_rtakeWhile.symm, fun s mem => ?_⟩
  exact List.mem_takeWhile_imp (List.mem_reverse.mp mem)

theorem trimmedSplit (p : Path) : ∃ tail, p = p.trimmed ++ tail ∧ ∀ s ∈ tail, leadsNowhere s = true := by
  cases p with
  | nil => exact ⟨[], rfl, by simp⟩
  | cons first rest =>
    obtain ⟨tail, split, nowhere⟩ := dropEndSplit rest
    refine ⟨tail, ?_, nowhere⟩
    rw [trimmed, List.cons_append, ← split]

theorem trimmedTwice (p : Path) : p.trimmed.trimmed = p.trimmed := by
  cases p with
  | nil => rfl
  | cons first rest => rw [trimmed, trimmed, dropEndFixed.mpr (dropEndLast rest)]

theorem Tidy.appendName {front : Path} {s : String} (name : leadsNowhere s = false) : Tidy (front ++ [s]) := by
  refine ⟨?_, ?_⟩
  · cases front with
    | nil => rfl
    | cons first rest =>
      have ends : dropEnd (rest ++ [s]) = rest ++ [s] := dropEndFixed.mpr fun t last => by
        rw [List.getLast?_concat] at last
        cases Option.some.inj last
        exact name
      rw [List.cons_append, trimmed, ends]
  · intro same
    have last := congrArg List.getLast? same
    rw [List.getLast?_concat] at last
    cases Option.some.inj last
    simp [leadsNowhere] at name

theorem Tidy.lastNamed {front : Path} {s : String} (tidy : Tidy (front ++ [s])) (filled : front ≠ []) :
    leadsNowhere s = false := by
  obtain ⟨first, rest, rfl⟩ := List.exists_cons_of_ne_nil filled
  have ends := tidy.ends
  rw [List.cons_append, trimmed] at ends
  exact dropEndFixed.mp (List.cons.inj ends).2 s List.getLast?_concat

theorem Tidy.noSlash {p : Path} (tidy : Tidy p) : p.dropSlashes = p := by
  refine List.rdropWhile_eq_self_iff.mpr fun filled empty => ?_
  obtain ⟨front, s, rfl⟩ := (List.eq_nil_or_concat' p).resolve_left filled
  rw [List.getLast_append_singleton] at empty
  have blank : s = "" := by simpa using empty
  subst blank
  cases front with
  | nil => exact tidy.notRoot rfl
  | cons first rest =>
    have leads := tidy.lastNamed (by simp)
    simp [leadsNowhere] at leads

theorem parentSplit {front : Path} {s : String} (tidy : Tidy (front ++ [s])) :
    (∃ parent tail, (front ++ [s]).parent? = some parent ∧ Tidy parent ∧ front = parent ++ tail ∧
      ∀ t ∈ tail, leadsNowhere t = true) ∨ ∀ t ∈ front, leadsNowhere t = true := by
  cases front with
  | nil => exact .inr (by simp)
  | cons first rest =>
    obtain ⟨tail, split, nowhere⟩ := trimmedSplit (first :: rest)
    by_cases root : trimmed (first :: rest) = [""]
    · refine .inr fun t mem => ?_
      rw [split, root] at mem
      rcases List.mem_append.mp mem with first | later
      · rw [List.mem_singleton.mp first]
        rfl
      · exact nowhere t later
    · refine .inl ⟨trimmed (first :: rest), tail, ?_, ⟨trimmedTwice _, root⟩, split, nowhere⟩
      have ends : trimmed (first :: (rest ++ [s])) = first :: (rest ++ [s]) := tidy.ends
      unfold parent?
      rw [List.cons_append, ends]
      cases rest with
      | nil =>
        have single : trimmed [first] = [first] := rfl
        rw [single] at root
        simp only [List.nil_append, List.dropLast_singleton, single]
      | cons second rest =>
        simp only [List.cons_append]
        rw [← List.cons_append, List.dropLast_concat]
        split
        · contradiction
        · rfl

theorem parentNamed {front : Path} {s t : String} (name : leadsNowhere s = false)
    (child : leadsNowhere t = false) : (front ++ [s] ++ [t]).parent? = some (front ++ [s]) := by
  have tidy : Tidy (front ++ [s] ++ [t]) := .appendName child
  rcases parentSplit tidy with ⟨parent, tail, found, _, split, nowhere⟩ | all
  · rcases List.eq_nil_or_concat' tail with rfl | ⟨more, last, rfl⟩
    · rw [found, split, List.append_nil]
    · rw [← List.append_assoc] at split
      have same := (List.append_inj' split rfl).2
      cases same
      simp [nowhere s (by simp)] at name
  · simp [all s (by simp)] at name

theorem segmentsSlash {s : List Char} (flat : '/' ∉ s) (rest : List Char) :
    segments (s ++ '/' :: rest) = s :: segments rest := by
  induction s with
  | nil => rfl
  | cons c s ih =>
    obtain ⟨other, later⟩ := not_or.mp (mt List.mem_cons.mpr flat)
    rw [List.cons_append, segments.eq_3 _ _ (Ne.symm other), ih later]
    rfl

theorem segmentsName {s : List Char} (flat : '/' ∉ s) : segments s = [s] := by
  induction s with
  | nil => rfl
  | cons c s ih =>
    obtain ⟨other, later⟩ := not_or.mp (mt List.mem_cons.mpr flat)
    rw [segments.eq_3 _ _ (Ne.symm other), ih later]
    rfl

theorem textPrefix {p q : Path} (front : q <+: p) : ∃ rest, p.text = q.text ++ rest := by
  obtain ⟨tail, rfl⟩ := front
  unfold text
  by_cases head : q = []
  · subst head
    refine ⟨String.intercalate "/" tail, ?_⟩
    simp
  · by_cases more : tail = []
    · subst more
      exact ⟨"", by simp⟩
    · refine ⟨"/" ++ String.intercalate "/" tail, ?_⟩
      rw [String.intercalate_append_of_ne_nil head more, String.append_assoc]

theorem segmentsText {p : Path} (filled : p ≠ []) (flat : ∀ s ∈ p, '/' ∉ s.toList) :
    (segments p.text.toList).map String.ofList = p := by
  unfold text
  induction p with
  | nil => contradiction
  | cons s p ih =>
    obtain ⟨first, rest⟩ := List.forall_mem_cons.mp flat
    cases p with
    | nil =>
      rw [String.intercalate_singleton, segmentsName first]
      simp
    | cons t p =>
      have split : (String.intercalate "/" (s :: t :: p)).toList =
          s.toList ++ '/' :: (String.intercalate "/" (t :: p)).toList := by
        rw [String.intercalate_cons_cons]
        simp
      rw [split, segmentsSlash first, List.map_cons, ih (by simp) rest, String.ofList_toList]

theorem segmentsFilled (s : List Char) : segments s ≠ [] := by
  fun_cases segments s with
  | case1 => simp
  | case2 => simp
  | case3 c rest =>
    cases h : segments rest <;> simp [Text.consFirst]

theorem segmentsJoined (s : List Char) :
    String.intercalate "/" ((segments s).map String.ofList) = String.ofList s := by
  fun_induction segments s with
  | case1 => rfl
  | case2 rest ih =>
    obtain ⟨first, later, whole⟩ := List.exists_cons_of_ne_nil (segmentsFilled rest)
    rw [whole] at ih ⊢
    rw [List.map_cons, List.map_cons, String.intercalate_cons_cons, ← List.map_cons, ih, ← String.toList_inj]
    simp
  | case3 c rest _ ih =>
    obtain ⟨first, later, whole⟩ := List.exists_cons_of_ne_nil (segmentsFilled rest)
    rw [whole] at ih ⊢
    rw [← String.toList_inj] at ih ⊢
    cases later with
    | nil => simpa [Text.consFirst] using ih
    | cons second later => simpa [Text.consFirst, String.intercalate_cons_cons] using ih

theorem textOfText (s : String) : (ofText s).text = s := by
  unfold ofText text
  split
  · rename_i empty
    exact (String.isEmpty_iff.mp empty).symm
  · rw [segmentsJoined, String.ofList_toList]

theorem ofTextName {s : String} (name : IsName s) (flat : '/' ∉ s.toList) : ofText s = [s] := by
  have filled : ¬ s.isEmpty = true := by
    intro empty
    have leads := name.leads
    simp [leadsNowhere, empty] at leads
  rw [ofText, if_neg filled, segmentsName flat]
  simp

theorem ofTextText {p : Path} (shown : p.text ≠ "") (flat : ∀ s ∈ p, '/' ∉ s.toList) : ofText p.text = p := by
  have filled : p ≠ [] := by
    rintro rfl
    exact shown rfl
  rw [ofText, if_neg (by simpa using shown), segmentsText filled flat]

end Path

end Tabular.Storage

import Tabular.Proofs.Definition.Numbering
import Tabular.Proofs.Expression.Layout

/-! The layout of a definition text: how its lines end, what blanks stand at their ends, and where there are blank
lines. A reader goes by the lines that are left without all this. A blank line moves those behind it, so the line
that a fault names may be another. -/
namespace Tabular.Definition
open Text Unicode
open Expression (AtLineEnd filledLines filledAppend filledAtEnd filledGap filledLineEnd filledOne)

/-- Blanks put at the end of a line, line feeds among them, or blank lines put in front of the text. A carriage return
in front of a line feed is such a blank. Changes may follow one another and may be undone. -/
inductive Respaced : List Char → List Char → Prop
  | behind {gap rest : List Char} (blank : ∀ c ∈ gap, isBlank c = true) (front : List Char)
      (ends : AtLineEnd rest) : Respaced (front ++ rest) (front ++ gap ++ rest)
  | above {gap : List Char} (blank : ∀ c ∈ gap, isBlank c = true) (rest : List Char) :
      Respaced rest (gap ++ '\n' :: rest)

/-- The same document, or the same fault, if perhaps at another line. -/
def Alike : Except ReadFault Outline → Except ReadFault Outline → Prop
  | .ok d, .ok e => d = e
  | .error f, .error g => ∃ line, g = f.renumber fun _ => line
  | _, _ => False

theorem filledBlank {gap : List Char} (blank : ∀ c ∈ gap, isBlank c = true) : filledLines gap = [] := by
  induction gap using byLines with
  | last t flat => exact filledGap ⟨blank, flat⟩
  | more t rest flat ih =>
    have front : ∀ c ∈ t, isBlank c = true := fun c member => blank c (by simp [member])
    have back : ∀ c ∈ rest, isBlank c = true := fun c member => blank c (by simp [member])
    rw [filledAppend, filledGap ⟨front, flat⟩, ih back, List.append_nil]

theorem filledBehind {gap : List Char} (blank : ∀ c ∈ gap, isBlank c = true) (front : List Char) :
    filledLines (front ++ gap) = filledLines front := by
  induction gap using byLines with
  | last t flat => exact filledLineEnd ⟨blank, flat⟩ front
  | more t rest flat _ =>
    have head : ∀ c ∈ t, isBlank c = true := fun c member => blank c (by simp [member])
    have back : ∀ c ∈ rest, isBlank c = true := fun c member => blank c (by simp [member])
    rw [← List.append_assoc, filledAppend, filledLineEnd ⟨head, flat⟩, filledBlank back, List.append_nil]

theorem respacedFilled {a b : List Char} (respaced : Respaced a b) : filledLines a = filledLines b := by
  cases respaced with
  | behind blank front ends => rw [filledAtEnd ends, filledAtEnd ends, filledBehind blank]
  | above blank rest => rw [filledAppend, filledBlank blank, List.nil_append]

theorem Respaced.below {a b : List Char} (respaced : Respaced a b) (front : List Char) :
    Respaced (front ++ '\n' :: a) (front ++ '\n' :: b) := by
  cases respaced with
  | behind blank inner ends => simpa using Respaced.behind blank (front ++ '\n' :: inner) ends
  | @above gap blank rest =>
    have line : ∀ c ∈ '\n' :: gap, isBlank c = true := List.forall_mem_cons.mpr ⟨by decide, blank⟩
    have ends : AtLineEnd ('\n' :: a) := by simp [AtLineEnd]
    simpa using Respaced.behind line front ends

theorem respacedBelow {a b : List Char} (respaced : Relation.EqvGen Respaced a b) (front : List Char) :
    Relation.EqvGen Respaced (front ++ '\n' :: a) (front ++ '\n' :: b) := by
  induction respaced with
  | rel a b change => exact .rel _ _ (change.below front)
  | refl a => exact .refl _
  | symm a b _ ih => exact .symm _ _ ih
  | trans a b c _ _ first second => exact .trans _ _ _ first second

theorem trimmedLine (t : List Char) {rest : List Char} (ends : AtLineEnd rest) :
    Respaced (trimEnd t ++ rest) (t ++ rest) := by
  obtain ⟨tail, split, blank⟩ := trimEndSplit t
  have behind := Respaced.behind blank (trimEnd t) ends
  rwa [← split] at behind

def plainText (ls : List (List Char)) : List Char := ls.flatMap fun l => l ++ ['\n']

theorem respacedPlain (a : List Char) : Relation.EqvGen Respaced (plainText (filledLines a)) a := by
  have atEnd : AtLineEnd [] := by simp [AtLineEnd]
  induction a using byLines with
  | last t flat =>
    have trimmed : Respaced (trimEnd t) t := by simpa using trimmedLine t atEnd
    rw [filledOne flat]
    by_cases empty : trimEnd t = []
    · rw [empty] at trimmed
      simpa [empty, plainText] using Relation.EqvGen.rel _ _ trimmed
    · have gap : ∀ c ∈ ['\n'], isBlank c = true := List.forall_mem_singleton.mpr (by decide)
      have feed : Respaced (trimEnd t) (trimEnd t ++ ['\n']) := by
        simpa using Respaced.behind gap (trimEnd t) atEnd
      simpa [empty, plainText] using (Relation.EqvGen.rel _ _ feed).symm.trans _ _ _ (.rel _ _ trimmed)
  | more t rest flat ih =>
    rw [filledAppend, filledOne flat]
    by_cases empty : trimEnd t = []
    · have above := Respaced.above (trimEndNil.mp empty) rest
      simpa [empty] using ih.trans _ _ _ (.rel _ _ above)
    · have trimmed : Respaced (trimEnd t ++ '\n' :: rest) (t ++ '\n' :: rest) :=
        trimmedLine t (by simp [AtLineEnd])
      simpa [empty, plainText] using (respacedBelow ih (trimEnd t)).trans _ _ _ (.rel _ _ trimmed)

theorem respacedIff {a b : List Char} : Relation.EqvGen Respaced a b ↔ filledLines a = filledLines b := by
  constructor
  · intro respaced
    exact (eq_equivalence.comap filledLines).eqvGen_iff.mp (respaced.mono fun _ _ => respacedFilled)
  · intro same
    have plain := respacedPlain a
    rw [same] at plain
    exact plain.symm.trans _ _ _ (respacedPlain b)

theorem sourceLineKept (n : Nat) (raw : List Char) : sourceLine? n (trimEnd raw) = sourceLine? n raw :=
  sourceLineTrimmed (trimEndFixed (trimEndEnds raw)) n

theorem unnumberedLines (n : Nat) (raws : List (List Char)) :
    (numberLines n raws).map (·.renumber fun _ => 0) =
      ((raws.map trimEnd).filter fun line => !line.isEmpty).filterMap (sourceLine? 0) := by
  induction raws generalizing n with
  | nil => rfl
  | cons raw raws ih =>
    have counted : (sourceLine? n raw).map (·.renumber fun _ => 0) = sourceLine? 0 raw := by
      unfold sourceLine?
      dsimp only
      split <;> rfl
    rw [numberLines, List.map_cons, List.filter_cons]
    by_cases empty : trimEnd raw = []
    · have nothing : sourceLine? n raw = none := by simp [sourceLine?, empty]
      simp [nothing, empty, ih]
    · rw [if_pos (by simp [empty]), List.filterMap_cons, sourceLineKept, ← counted, ← ih (n + 1)]
      cases sourceLine? n raw <;> rfl

theorem renumberedTwice (f : ReadFault) (k n : Nat) :
    (f.renumber fun _ => k).renumber (fun _ => n) = f.renumber fun _ => n := by
  cases f <;> rfl

theorem ownLine (f : ReadFault) : ∃ line, (f.renumber fun _ => line) = f := by
  cases f with
  | unexpected line text => exact ⟨line, rfl⟩
  | badName line text => exact ⟨line, rfl⟩
  | missing object property => exact ⟨0, rfl⟩
  | unknownWord word => exact ⟨0, rfl⟩

theorem sameUnnumbered {f g : ReadFault} (same : (f.renumber fun _ => 0) = g.renumber fun _ => 0) :
    ∃ line, g = f.renumber fun _ => line := by
  obtain ⟨line, own⟩ := ownLine g
  have moved := congrArg (·.renumber fun _ => line) same
  simp only [renumberedTwice] at moved
  exact ⟨line, own.symm.trans moved.symm⟩

theorem alikeUnnumbered {x y : Except ReadFault (List Item)}
    (same : x.mapError (·.renumber fun _ => 0) = y.mapError (·.renumber fun _ => 0)) :
    Alike (x.map outline) (y.map outline) := by
  cases x with
  | ok items =>
    cases y with
    | ok other => exact congrArg outline (Except.ok.inj same)
    | error => contradiction
  | error fault =>
    cases y with
    | ok => contradiction
    | error other => exact sameUnnumbered (Except.error.inj same)

theorem readMap (s : String) : read s = (readLines (sourceLines s.toList)).map outline := by
  change (do return outline (← readLines (sourceLines s.toList))) = _
  cases readLines (sourceLines s.toList) <;> rfl

theorem layoutIgnored {s t : String} (respaced : Relation.EqvGen Respaced s.toList t.toList) :
    Alike (read s) (read t) := by
  have lines : (sourceLines s.toList).map (·.renumber fun _ => 0) =
      (sourceLines t.toList).map (·.renumber fun _ => 0) := by
    rw [sourceLines, sourceLines, unnumberedLines, unnumberedLines]
    exact congrArg (List.filterMap (sourceLine? 0)) (respacedIff.mp respaced)
  have read := congrArg readLines lines
  rw [readLinesRenumbered, readLinesRenumbered] at read
  rw [readMap, readMap]
  exact alikeUnnumbered read

def compact : String := "measure Total =\n\t\tSUM(\n\t\t\tx)\nrole"

def loose : String := "\u00a0\nmeasure Total = \r\n\t\tSUM(\r\n\n\t\t\tx)\t\n\t\n\nrole \n"

theorem looseRespaced : Relation.EqvGen Respaced compact.toList loose.toList ∧
    Alike (read compact) (read loose) := by
  have respaced : Relation.EqvGen Respaced compact.toList loose.toList := respacedIff.mpr (by decide +kernel)
  exact ⟨respaced, layoutIgnored (s := compact) (t := loose) respaced⟩

example : read compact = .error (.badName 4 "role") ∧ read loose = .error (.badName 8 "role") := by
  decide +kernel

end Tabular.Definition

import Tabular.Proofs.Definition.Prose

/-! What becomes of the written lines for whoever takes a carriage return for the end of a line. A line is seen in
pieces if there is one inside it, which only a line of prose can have. -/
namespace Tabular.Definition
open Text Validation

/-- The lines of a text for a reader to whom a carriage return ends a line as well, alone or in front of a line
feed. -/
def returnLines : List Char → List (List Char)
  | [] => []
  | '\n' :: rest => [] :: returnLines rest
  | '\r' :: '\n' :: rest => [] :: returnLines rest
  | '\r' :: rest => [] :: returnLines rest
  | c :: rest => consFirst c (returnLines rest)

theorem returnLinesFirst {t rest : List Char} {more : List (List Char)} (flat : OneLine t) (whole : NoReturn t)
    (ends : returnLines rest = [] :: more) : returnLines (t ++ rest) = t :: more := by
  induction t with
  | nil => exact ends
  | cons c t ih =>
    simp only [OneLine, NoReturn, List.mem_cons, not_or] at flat whole ih
    rw [List.cons_append, returnLines.eq_5 _ _ (Ne.symm flat.1) (fun _ same => absurd same.symm whole.1)
      (Ne.symm whole.1), ih flat.2 whole.2, consFirst]

theorem returnLinesRow {t : List Char} (rest : List Char) (flat : OneLine t) (ends : t.getLast? ≠ some '\r') :
    returnLines (t ++ '\n' :: rest) = t.splitOn '\r' ++ returnLines rest := by
  by_cases whole : NoReturn t
  · rw [List.splitOn_eq_singleton whole, returnLinesFirst flat whole (by rw [returnLines])]
    rfl
  · obtain ⟨front, back, split, first⟩ := List.eq_append_cons_of_mem (Decidable.not_not.mp whole)
    subst split
    simp only [OneLine, List.mem_append, List.mem_cons, not_or] at flat
    cases back with
    | nil => simp at ends
    | cons c back =>
      have notFeed : c ≠ '\n' := fun same => flat.2.2 (by simp [same])
      have cut : returnLines ('\r' :: (c :: back ++ '\n' :: rest)) = [] :: returnLines (c :: back ++ '\n' :: rest) := by
        rw [List.cons_append, returnLines.eq_4 _ fun _ same => notFeed (List.cons.inj same).1]
      have shorter : (c :: back).length < (front ++ '\r' :: c :: back).length := by
        simp only [List.length_append, List.length_cons]
        omega
      rw [List.append_assoc, List.cons_append, returnLinesFirst flat.1 first cut,
        returnLinesRow rest flat.2.2 (by simpa [List.getLast?_append] using ends),
        List.splitOn_append_cons_self_of_not_mem first]
      rfl
termination_by t.length

theorem returnLinesWhole (s : List Char) : ∀ l ∈ returnLines s, NoReturn l := by
  fun_induction returnLines s with
  | case1 => simp
  | case2 rest ih => simpa [NoReturn] using ih
  | case3 rest ih => simpa [NoReturn] using ih
  | case4 rest _ ih => simpa [NoReturn] using ih
  | case5 c rest _ _ notReturn ih =>
    have head : '\r' ≠ c := fun same => notReturn same.symm
    cases h : returnLines rest with
    | nil => simpa [consFirst, NoReturn] using head
    | cons l ls =>
      simp only [h, List.forall_mem_cons] at ih
      simpa [consFirst, NoReturn, head] using ih

theorem returnLinesRender {ls : List Line} (flat : Flat ls) (ends : ∀ l ∈ ls, l.text.toList.getLast? ≠ some '\r') :
    returnLines (render ls).toList = (rows ls).flatMap (·.splitOn '\r') := by
  rw [render, String.toList_ofList]
  induction ls with
  | nil => rfl
  | cons l ls ih =>
    obtain ⟨here, later⟩ := List.forall_mem_cons.mp flat
    obtain ⟨last, rest⟩ := List.forall_mem_cons.mp ends
    have raw : l.raw.getLast? ≠ some '\r' := by
      rw [Line.raw, List.getLast?_append]
      cases found : l.text.toList.getLast? with
      | some c => simpa [found] using last
      | none => simp [List.getLast?_replicate]
    have line : l.chars ++ ls.flatMap Line.chars = l.raw ++ '\n' :: ls.flatMap Line.chars := by
      simp [Line.chars, Line.raw]
    rw [List.flatMap_cons, line, returnLinesRow _ (rawFlat here) raw, ih later rest]
    rfl

theorem rowsReturn {ls : List Line} : (∀ r ∈ rows ls, NoReturn r) ↔ Whole ls := by
  simp [rows, Line.raw, NoReturn, Whole]

theorem renderReturn {ls : List Line} : NoReturn (render ls).toList ↔ Whole ls := by
  simp [render, Line.chars, NoReturn, Whole]

theorem separatedLines {P : Line → Prop} (blank : P Line.blank) {blocks : List (List Line)} :
    (∀ l ∈ separated blocks, P l) ↔ ∀ block ∈ blocks, ∀ l ∈ block, P l := by
  have later (rest : List (List Line)) : (∀ l ∈ spaced rest, P l) ↔ ∀ block ∈ rest, ∀ l ∈ block, P l := by
    simp only [spaced, List.forall_mem_flatMap, List.forall_mem_cons, blank, true_and]
  cases blocks with
  | nil => simp [separated]
  | cons block blocks => rw [separatedCons, List.forall_mem_append, later, List.forall_mem_cons]

structure SeenCut (f : File) (ls : List Line) : Prop where
  written : f.contents = render ls
  seen : returnLines f.contents.toList = (rows ls).flatMap (·.splitOn '\r')
  same : returnLines f.contents.toList = rows ls ↔ NoReturn f.contents.toList

theorem seenCut {ls : List Line} {f : File} (written : f.contents = render ls) (flat : Flat ls)
    (ends : ∀ l ∈ ls, l.text.toList.getLast? ≠ some '\r') : SeenCut f ls := by
  have seen := returnLinesRender flat ends
  refine ⟨written, written ▸ seen, ?_⟩
  rw [written, renderReturn, ← rowsReturn]
  constructor
  · intro same
    exact same ▸ returnLinesWhole _
  · intro whole
    have single : ∀ r ∈ rows ls, r.splitOn '\r' = [r] := fun r mem => List.splitOn_eq_singleton (whole r mem)
    rw [seen, List.flatMap_congr single, List.flatMap_singleton']

theorem filesCut {fs : List File} {blocks : List (List Line)} (contents : fs.map (·.contents) = blocks.map render)
    (flat : ∀ ls ∈ blocks, Flat ls) (ends : ∀ ls ∈ blocks, ∀ l ∈ ls, l.text.toList.getLast? ≠ some '\r') :
    List.Forall₂ SeenCut fs blocks := by
  have each : List.Forall₂ (fun f ls => f.contents = render ls) fs blocks := by
    rw [← List.forall₂_map_right_iff, ← List.forall₂_map_left_iff, contents]
    exact List.forall₂_same.mpr fun _ _ => rfl
  rw [List.forall₂_iff_zip] at each ⊢
  refine ⟨each.1, fun mem => ?_⟩
  have block := (List.of_mem_zip mem).2
  exact seenCut (each.2 mem) (flat _ block) (ends _ block)

theorem returnsFromProse {m : Model} {o : Options} {ws : List Warning} (accepted : validate m = .ok ws)
    (culture : hasControl o.culture = false) (schema : hasControl o.defaultSchema = false) :
    ∃ a, compile m o = .ok a ∧ List.Forall₂ SeenCut a.definitionFiles (fileBlocks m o) ∧
      ((∀ f ∈ a.definitionFiles, NoReturn f.contents.toList) ↔ ∀ l ∈ prose m, NoReturn l) := by
  obtain ⟨a, made⟩ := validatedCompiles o accepted
  have legal := compiledLegal made
  have text := textCarries legal (hasControlPlain.mp culture) (hasControlPlain.mp schema)
  have flat := (textReads legal (plainOptions (hasControlPlain.mp culture) (hasControlPlain.mp schema))).flat
  have ends := text.ends
  have returns := text.returns
  rw [← fileBlocksJoined] at flat ends returns
  have contents := fileBlocksContents m o
  rw [← compiledDefinition made] at contents
  refine ⟨a, made, ?_, ?_⟩
  · exact filesCut contents ((separatedLines (by decide)).mp flat) ((separatedLines (by decide)).mp ends)
  · calc (∀ f ∈ a.definitionFiles, NoReturn f.contents.toList)
      _ ↔ ∀ c ∈ a.definitionFiles.map (·.contents), NoReturn c.toList := by rw [List.forall_mem_map]
      _ ↔ ∀ ls ∈ fileBlocks m o, Whole ls := by simp only [contents, List.forall_mem_map, renderReturn]
      _ ↔ Whole (separated (fileBlocks m o)) := (separatedLines (by decide)).symm
      _ ↔ ∀ l ∈ prose m, NoReturn l := returns

def ported : Model where
  name := "Shop"
  description := some "Net\r\n\r\nof tax\r"
  tables := [{ name := "Sales", source := some "select *\rfrom \x22orders\x22"
               measures := [{ name := "Total", expression := "VAR x = 1\r\nRETURN x\r\r\n" }] }]

theorem portedWhole : ∃ a, compile ported {} = .ok a ∧ List.Forall₂ SeenCut a.definitionFiles (fileBlocks ported {}) ∧
    ((∀ f ∈ a.definitionFiles, NoReturn f.contents.toList) ↔ ∀ l ∈ prose ported, NoReturn l) := by
  have accepted : validate ported = .ok [.noColumns "Sales"] := by decide
  exact returnsFromProse accepted (by decide) (by decide)

example : ∀ l ∈ prose ported, NoReturn l := by decide

def netted : Model where
  name := "Shop"
  description := some "Net\rmeasure Ghost = 1"

theorem descriptionLeavesComment : ∃ a f, validate netted = .ok [] ∧ compile netted {} = .ok a ∧
    f ∈ a.definitionFiles ∧ ¬ NoReturn f.contents.toList ∧ returnLines f.contents.toList =
      "/// Net".toList :: "measure Ghost = 1".toList :: (rows (modelLines netted {})).tail := by
  have accepted : validate netted = .ok [] := by decide
  obtain ⟨a, made⟩ := validatedCompiles {} accepted
  have member : (⟨"definition/model.tmdl", render (modelLines netted {})⟩ : File) ∈ a.definitionFiles := by
    rw [compiledDefinition made]
    simp [files]
  have flat : Flat (modelLines netted {}) := (by decide +kernel : ∀ l ∈ modelLines netted {}, OneLine l.text.toList)
  have ends : ∀ l ∈ modelLines netted {}, l.text.toList.getLast? ≠ some '\r' := by decide +kernel
  have broken : ¬ ∀ l ∈ modelLines netted {}, NoReturn l.text.toList := by decide +kernel
  refine ⟨a, _, accepted, made, member, fun whole => broken (renderReturn.mp whole), ?_⟩
  rw [returnLinesRender flat ends]
  decide +kernel

end Tabular.Definition

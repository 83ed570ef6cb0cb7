import Tabular.Compilation
import Tabular.Proofs.Definition.Item
import Tabular.Proofs.Definition.Order

/-! The definition text of a whole model. Its files follow each other as blocks of lines, and reading them
in a row gives every object of the model once, in the order of the model. -/
namespace Tabular.Definition
open Text Validation

theorem separatedCons (block : List Line) (blocks : List (List Line)) :
    separated (block :: blocks) = block ++ spaced blocks := by
  induction blocks generalizing block with
  | nil => simp [separated, spaced]
  | cons next blocks ih =>
    rw [separated, ih]
    · simp [spaced]
    · simp

theorem joinRendered (blocks : List (List Line)) :
    joinLines (blocks.map fun b => b.flatMap Line.chars) = (separated blocks).flatMap Line.chars := by
  have blank : Line.blank.chars = ['\n'] := rfl
  induction blocks with
  | nil => rfl
  | cons block blocks ih =>
    cases blocks with
    | nil => simp [joinLines, separated]
    | cons next rest =>
      rw [List.map_cons] at ih
      simp [joinLines, separated, blank, ih]

def textLines (m : Model) (o : Options) : List Line :=
  databaseLines m o ++ spaced ([modelLines m o] ++ m.tables.map (fun t => tableLines t o)
    ++ relationshipBlocks m.relationships ++ m.hierarchies.map hierarchyLines ++ m.roles.map roleLines)

def grouped : List (List Line) → List (List Line)
  | [] => []
  | blocks => [separated blocks]

theorem spacedGrouped (blocks : List (List Line)) : spaced (grouped blocks) = spaced blocks := by
  cases blocks with
  | nil => rfl
  | cons block blocks => simp [grouped, spaced, separatedCons]

theorem fileGrouped (path : String) (blocks : List (List Line)) :
    (file? path blocks).map (·.contents) = (grouped blocks).map render := by
  cases blocks <;> rfl

theorem uniqueStemsLength (names : List String) : (uniqueStems names).length = names.length := by
  rw [uniqueStems, List.length_map]
  exact (claimAllCandidates stemCandidate [] names).length_eq.symm

theorem zipWithRight {α β γ : Type} {as : List α} {bs : List β} (same : as.length = bs.length) (f : β → γ) :
    List.zipWith (fun _ b => f b) as bs = bs.map f := by
  have whole : List.zipWith (fun _ b => f b) as bs = ((as.zip bs).map Prod.snd).map f := by
    rw [List.map_map, ← List.map_uncurry_zip_eq_zipWith]
    rfl
  rw [whole, List.map_snd_zip (Nat.le_of_eq same.symm)]

theorem zipWithLeft {α β γ : Type} {as : List α} {bs : List β} (same : as.length = bs.length) (f : α → γ) :
    List.zipWith (fun a _ => f a) as bs = as.map f := by
  rw [List.zipWith_comm]
  exact zipWithRight same.symm f

theorem tableFileContents (m : Model) (o : Options) :
    (tableFiles m o).map (·.contents) = (m.tables.map fun t => tableLines t o).map render := by
  have same := uniqueStemsLength (m.tables.map (·.name))
  rw [List.length_map] at same
  rw [tableFiles, List.map_zipWith, List.map_map]
  exact zipWithRight same fun t => render (tableLines t o)

theorem roleFileContents (m : Model) :
    (roleFiles m).map (·.contents) = (m.roles.map roleLines).map render := by
  have same := uniqueStemsLength (m.roles.map (·.name))
  rw [List.length_map] at same
  rw [roleFiles, List.map_zipWith, List.map_map]
  exact zipWithRight same fun r => render (roleLines r)

def fileBlocks (m : Model) (o : Options) : List (List Line) :=
  [databaseLines m o, modelLines m o] ++ m.tables.map (fun t => tableLines t o)
    ++ grouped (relationshipBlocks m.relationships) ++ grouped (m.hierarchies.map hierarchyLines)
    ++ m.roles.map roleLines

theorem fileBlocksContents (m : Model) (o : Options) :
    (files m o).map (·.contents) = (fileBlocks m o).map render := by
  simp only [files, fileBlocks, List.map_append, tableFileContents, fileGrouped, roleFileContents]
  rfl

theorem fileBlocksJoined (m : Model) (o : Options) : separated (fileBlocks m o) = textLines m o := by
  have first : fileBlocks m o = databaseLines m o :: ([modelLines m o]
      ++ m.tables.map (fun t => tableLines t o) ++ grouped (relationshipBlocks m.relationships)
      ++ grouped (m.hierarchies.map hierarchyLines) ++ m.roles.map roleLines) := rfl
  rw [first, separatedCons, textLines]
  simp only [spacedAppend, spacedGrouped]

theorem joinFilesLines (m : Model) (o : Options) : joinFiles (files m o) = render (textLines m o) := by
  have chars : (files m o).map (fun f => f.contents.toList) =
      (fileBlocks m o).map fun b => b.flatMap Line.chars := by
    have same := congrArg (List.map String.toList) (fileBlocksContents m o)
    simpa [List.map_map, Function.comp_def, render] using same
  rw [joinFiles, chars, joinRendered, fileBlocksJoined]
  rfl

theorem filesEnd {m : Model} {o : Options} {f : File} (member : f ∈ files m o) :
    ".tmdl".toList.isSuffixOf f.path.toList = true := by
  have ends {front : String} : ".tmdl".toList.isSuffixOf (front ++ ".tmdl").toList = true := by
    rw [List.isSuffixOf_iff_suffix, String.toList_append]
    exact List.suffix_append ..
  have zipped {α : Type} {names : List String} {xs : List α} {front : String} {g : α → String}
      (mem : f ∈ List.zipWith (fun stem x => ⟨front ++ stem ++ ".tmdl", g x⟩) names xs) :
      ".tmdl".toList.isSuffixOf f.path.toList = true := by
    obtain ⟨p, _, rfl⟩ := List.mem_map.mp (List.map_uncurry_zip_eq_zipWith ▸ mem)
    exact ends
  have whole {path : String} {blocks : List (List Line)} (mem : f ∈ file? path blocks) : f.path = path := by
    cases blocks with
    | nil => simp [file?] at mem
    | cons => cases List.mem_singleton.mp mem; rfl
  simp only [files, List.mem_append, List.mem_cons, List.not_mem_nil, or_false] at member
  rcases member with (((((rfl | rfl) | table) | relationship) | hierarchy) | role)
  · change ".tmdl".toList.isSuffixOf "definition/database.tmdl".toList = true
    decide
  · change ".tmdl".toList.isSuffixOf "definition/model.tmdl".toList = true
    decide
  · exact zipped table
  · rw [whole relationship]
    decide
  · rw [whole hierarchy]
    decide
  · exact zipped role

theorem compiledParts {m : Model} {o : Options} {a : Artifacts} (done : compile m o = .ok a) :
    a.slug = fileStem m.name ∧ a.files = markerFile :: files m o := by
  unfold compile at done
  cases h : validate m with
  | error f => rw [h] at done; contradiction
  | ok ws =>
    rw [h] at done
    cases Except.ok.inj done
    exact ⟨rfl, rfl⟩

theorem compiledLegal {m : Model} {o : Options} {a : Artifacts} (done : compile m o = .ok a) : Legal m := by
  unfold compile at done
  cases h : validate m with
  | error f => rw [h] at done; contradiction
  | ok ws => exact validateOk.mp ⟨ws, h⟩

theorem compiledDefinition {m : Model} {o : Options} {a : Artifacts} (done : compile m o = .ok a) :
    a.definitionFiles = files m o := by
  have marker : ¬ ".tmdl".toList.isSuffixOf markerFile.path.toList = true := by decide
  rw [Artifacts.definitionFiles, (compiledParts done).2]
  refine (List.filter_cons_of_neg (by simpa using marker)).trans ?_
  exact List.filter_eq_self.mpr fun f member => filesEnd member

theorem definitionTextLines {m : Model} {o : Options} {a : Artifacts} (done : compile m o = .ok a) :
    a.definitionText = render (textLines m o) := by
  rw [Artifacts.definitionText, compiledDefinition done, joinFilesLines]

def modelItems (m : Model) : List Item :=
  [.other] ++ m.measures.map (fun x => .measure (measureOutline x))
    ++ m.tables.map (fun t => .tableRef t.name) ++ m.roles.map fun r => .roleRef r.name

theorem modelReads {m : Model} {o : Options} (names : LegalNames m) (values : LegalValues m)
    (culture : OneLine o.culture.toList) : Reads 0 readItem (modelLines m o) (modelItems m) := by
  have lines : modelLines m o = comment 0 m.description ++ (modelHead o
      ++ spaced (m.measures.map (measureLines 0)) ++ refLines "table" (m.tables.map (·.name))
      ++ refLines "role" (m.roles.map (·.name))) := by
    simp only [modelLines, modelHead, List.append_assoc]
  have measures : Reads 0 readItem (spaced (m.measures.map (measureLines 0)))
      (m.measures.map fun x => .measure (measureOutline x)) :=
    .spaced fun x mem => measureReads Item.measure (names.measures x mem) (values.measures x mem)
      fun _ _ => measureItem
  have tables : Reads 0 readItem (refLines "table" (m.tables.map (·.name)))
      ((m.tables.map (·.name)).map .tableRef) := by
    refine refsRead fun n mem => ?_
    obtain ⟨t, member, rfl⟩ := List.mem_map.mp mem
    exact refReads (by decide) (nameFlat (names.tables t member).table) (.inl ⟨rfl, rfl⟩)
  have roles : Reads 0 readItem (refLines "role" (m.roles.map (·.name)))
      ((m.roles.map (·.name)).map .roleRef) := by
    refine refsRead fun n mem => ?_
    obtain ⟨r, member, rfl⟩ := List.mem_map.mp mem
    exact refReads (by decide) (nameFlat (names.roles r member).role) (.inr ⟨rfl, rfl⟩)
  have whole := (((modelHeadReads culture).append measures).append tables).append roles
  rw [List.map_map, List.map_map] at whole
  rw [lines]
  exact .commented _ whole

theorem declaredLegal {m : Model} (names : LegalNames m) {table column : String}
    (declared : Declared m table column) : LegalName table ∧ LegalName column := by
  obtain ⟨t, mem, rfl, has⟩ := declared
  have legal := names.tables t mem
  refine ⟨legal.table, ?_⟩
  rcases List.mem_append.mp has with plain | calculated
  · obtain ⟨c, isColumn, rfl⟩ := List.mem_map.mp plain
    exact legal.columns c isColumn
  · obtain ⟨c, isColumn, rfl⟩ := List.mem_map.mp calculated
    exact legal.calculatedColumns c isColumn

theorem flatEndpoints {m : Model} (names : LegalNames m) (declared : BothEnds Declared m)
    {r : Relationship} (member : r ∈ m.relationships) : FlatEndpoints r := by
  have source := declaredLegal names (declared r member).1
  have target := declaredLegal names (declared r member).2
  exact ⟨nameFlat source.1, nameFlat source.2, nameFlat target.1, nameFlat target.2⟩

theorem candidateFlat {r : Relationship} (flat : FlatEndpoints r) (k : Nat) :
    OneLine (relationshipCandidate r k).toList := by
  have ends : OneLine (relationshipCandidate r 0).toList := by
    simpa [relationshipCandidate, OneLine] using
      ⟨flat.fromTable, flat.fromColumn, flat.toTable, flat.toColumn⟩
  cases k with
  | zero => exact ends
  | succ k =>
    have number : OneLine (decimal (k + 2)) := (Solid.line (decimalSolid (k + 2))).flat
    have split : (relationshipCandidate r (k + 1)).toList =
        (relationshipCandidate r 0).toList ++ (' ' :: '\x23' :: decimal (k + 2)) := by
      simp [relationshipCandidate]
    rw [split]
    simp only [OneLine, List.mem_append, List.mem_cons, not_or]
    exact ⟨ends, by decide, by decide, number⟩

theorem relationshipNamesFrom (rs : List Relationship) :
    List.Forall₂ (fun r name => ∃ k, name = relationshipCandidate r k) rs (relationshipNames rs) :=
  claimAllCandidates relationshipCandidate [] rs

def relationshipOutlines (rs : List Relationship) : List RelationshipOutline :=
  List.zipWith relationshipOutline (relationshipNames rs) rs

theorem relationshipBlocksRead {rs : List Relationship} (flat : ∀ r ∈ rs, FlatEndpoints r) :
    List.Forall₂ (fun block r => Reads 0 readItem block [.relationship r]) (relationshipBlocks rs)
      (relationshipOutlines rs) := by
  have named := relationshipNamesFrom rs
  unfold relationshipBlocks relationshipOutlines
  generalize relationshipNames rs = names at named ⊢
  induction named with
  | nil => exact .nil
  | cons first rest ih =>
    obtain ⟨k, rfl⟩ := first
    obtain ⟨head, tail⟩ := List.forall_mem_cons.mp flat
    exact .cons (relationshipReads (candidateFlat head k) head) (ih tail)

theorem Reads.separated {α : Type} {depth : Nat} {f : Section → Except ReadFault α} {blocks : List (List Line)}
    {groups : List (List α)} (each : List.Forall₂ (Reads depth f) blocks groups) :
    Reads depth f (separated blocks) groups.flatten := by
  have later {bs : List (List Line)} {gs : List (List α)} (each : List.Forall₂ (Reads depth f) bs gs) :
      Reads depth f (Definition.spaced bs) gs.flatten := by
    induction each with
    | nil => exact .nil
    | cons first _ ih => exact first.blank.append ih
  cases each with
  | nil => exact .nil
  | cons first rest =>
    rw [separatedCons]
    exact first.append (later rest)

def lone {α : Type} (xs : List α) : List (List α) := if xs = [] then [] else [xs]

theorem loneFlatten {α : Type} (xs : List α) : (lone xs).flatten = xs := by
  unfold lone
  split <;> simp_all

theorem singlesFlatten {α β : Type} (xs : List α) (f : α → β) : (xs.map fun x => [f x]).flatten = xs.map f := by
  rw [← List.flatMap_def, ← List.map_eq_flatMap]

theorem Reads.grouped {α : Type} {depth : Nat} {f : Section → Except ReadFault α} {blocks : List (List Line)}
    {items : List α} (each : List.Forall₂ (fun block x => Reads depth f block [x]) blocks items) :
    List.Forall₂ (Reads depth f) (grouped blocks) (lone items) := by
  have whole : Reads depth f (Definition.separated blocks) (items.map fun x => [x]).flatten :=
    .separated (List.forall₂_map_right_iff.mpr each)
  rw [singlesFlatten items fun x => x, List.map_id'] at whole
  cases each with
  | nil => exact .nil
  | cons first rest => exact .cons whole .nil

def tableGroups (m : Model) : List (List Item) := m.tables.map fun t => [.table (tableOutline t)]

def relationshipItems (m : Model) : List Item := (relationshipOutlines m.relationships).map .relationship

def hierarchyItems (m : Model) : List Item := m.hierarchies.map fun h => .hierarchy (hierarchyOutline h)

def roleGroups (m : Model) : List (List Item) := m.roles.map fun r => [.role (roleOutline r)]

def itemGroups (m : Model) : List (List Item) :=
  [modelItems m] ++ tableGroups m ++ lone (relationshipItems m) ++ lone (hierarchyItems m) ++ roleGroups m

/-- Options whose values do not leave the lines on which they are written. -/
structure FlatOptions (m : Model) (o : Options) : Prop where
  culture : OneLine o.culture.toList
  schema : ∀ t ∈ m.tables, FlatSchema t o

theorem plainOptions {m : Model} {o : Options} (culture : Plain o.culture) (schema : Plain o.defaultSchema) :
    FlatOptions m o :=
  ⟨plainFlat culture, fun _ _ _ _ => plainFlat schema⟩

theorem blocksRead {m : Model} {o : Options} (legal : Legal m) (flat : FlatOptions m o) :
    List.Forall₂ (Reads 0 readItem) (fileBlocks m o) ([.other] :: itemGroups m) := by
  have first : List.Forall₂ (Reads 0 readItem) [databaseLines m o, modelLines m o] [[.other], modelItems m] :=
    .cons (databaseReads o legal.names.model) (.cons (modelReads legal.names legal.values flat.culture) .nil)
  have tables : List.Forall₂ (Reads 0 readItem) (m.tables.map fun t => tableLines t o) (tableGroups m) := by
    rw [tableGroups, List.forall₂_map_left_iff, List.forall₂_map_right_iff, List.forall₂_same]
    exact fun t mem => tableReads (legal.names.tables t mem) (legal.values.tables t mem)
      (legal.values.tableMeasures t mem) (legal.modes t mem) (flat.schema t mem)
  have relationships : List.Forall₂ (Reads 0 readItem) (grouped (relationshipBlocks m.relationships))
      (lone (relationshipItems m)) :=
    Reads.grouped <| List.forall₂_map_right_iff.mpr <|
      relationshipBlocksRead fun r mem => flatEndpoints legal.names legal.endpoints mem
  have hierarchies : List.Forall₂ (Reads 0 readItem) (grouped (m.hierarchies.map hierarchyLines))
      (lone (hierarchyItems m)) := by
    refine Reads.grouped ?_
    rw [hierarchyItems, List.forall₂_map_left_iff, List.forall₂_map_right_iff, List.forall₂_same]
    refine fun h mem => hierarchyReads (legal.names.hierarchies h mem) (legal.names.levels h mem) fun n named => ?_
    obtain ⟨t, member, rfl⟩ := (legal.hierarchies h mem).table n named
    exact nameFlat (legal.names.tables t member).table
  have roles : List.Forall₂ (Reads 0 readItem) (m.roles.map roleLines) (roleGroups m) := by
    rw [roleGroups, List.forall₂_map_left_iff, List.forall₂_map_right_iff, List.forall₂_same]
    exact fun r mem => roleReads (legal.names.roles r mem)
  exact List.rel_append (List.rel_append (List.rel_append (List.rel_append first tables) relationships)
    hierarchies) roles

def textItems (m : Model) : List Item :=
  [.other] ++ modelItems m ++ m.tables.map (fun t => .table (tableOutline t))
    ++ (relationshipOutlines m.relationships).map .relationship
    ++ m.hierarchies.map (fun h => .hierarchy (hierarchyOutline h))
    ++ m.roles.map fun r => .role (roleOutline r)

theorem itemGroupsFlatten (m : Model) : .other :: (itemGroups m).flatten = textItems m := by
  simp [itemGroups, textItems, loneFlatten, singlesFlatten, tableGroups, relationshipItems, hierarchyItems,
    roleGroups]

theorem textReads {m : Model} {o : Options} (legal : Legal m) (flat : FlatOptions m o) :
    Reads 0 readItem (textLines m o) (textItems m) := by
  rw [← fileBlocksJoined, ← itemGroupsFlatten]
  exact .separated (blocksRead legal flat)

theorem sortByRefsSelf {α : Type} {name : α → String} {refs : List String} {items : List α}
    (inOrder : items.map name = refs) (distinct : refs.Nodup) : sortByRefs name refs items = items := by
  subst inOrder
  have place (i : Nat) (inside : i < items.length) : (items.map name).idxOf (name items[i]) = i := by
    have found := distinct.idxOf_getElem i (by simpa using inside)
    rwa [List.getElem_map] at found
  refine sortByRefsInOrder name _ (List.pairwise_iff_getElem.mpr fun i j left right before => ?_)
  rw [place i left, place j right]
  exact before.le

def outlineOf (m : Model) : Outline where
  tables := m.tables.map tableOutline
  measures := m.measures.map measureOutline
  relationships := relationshipOutlines m.relationships
  hierarchies := m.hierarchies.map hierarchyOutline
  roles := m.roles.map roleOutline
  tableRefs := m.tables.map (·.name)
  roleRefs := m.roles.map (·.name)

theorem outlineItems {m : Model} (distinct : DistinctNames m) : outline (textItems m) = outlineOf m := by
  have tables : sortByRefs (·.name) (m.tables.map (·.name)) (m.tables.map tableOutline) =
      m.tables.map tableOutline := sortByRefsSelf (by rw [List.map_map]; rfl) distinct.tables
  have roles : sortByRefs (·.name) (m.roles.map (·.name)) (m.roles.map roleOutline) =
      m.roles.map roleOutline := sortByRefsSelf (by rw [List.map_map]; rfl) distinct.roles
  unfold outline tableRefs roleRefs textItems modelItems outlineOf
  simp [List.filterMap_append, List.filterMap_map, tables, roles]

theorem readRendered {ls : List Line} {items : List Item} (reads : Reads 0 readItem ls items) :
    read (render ls) = .ok (outline items) := by
  have found : readItems (render ls).toList = .ok items := by
    rw [readItems, sourceLinesRender reads.flat]
    exact reads.read 1
  rw [read, readChars, found]
  rfl

theorem readText {m : Model} {o : Options} (legal : Legal m) (flat : FlatOptions m o) :
    read (render (textLines m o)) = .ok (outlineOf m) := by
  rw [readRendered (textReads legal flat), outlineItems legal.distinct]

theorem flatTextRead {m : Model} {o : Options} {a : Artifacts} (made : compile m o = .ok a)
    (flat : FlatOptions m o) : read a.definitionText = .ok (outlineOf m) := by
  rw [definitionTextLines made]
  exact readText (compiledLegal made) flat

theorem compiledTextRead {m : Model} {o : Options} {a : Artifacts} (made : compile m o = .ok a)
    (culture : hasControl o.culture = false) (schema : hasControl o.defaultSchema = false) :
    read a.definitionText = .ok (outlineOf m) :=
  flatTextRead made (plainOptions (hasControlPlain.mp culture) (hasControlPlain.mp schema))

theorem validatedCompiles {m : Model} {ws : List Warning} (o : Options) (accepted : validate m = .ok ws) :
    ∃ a, compile m o = .ok a := by
  rw [compile, accepted]
  exact ⟨_, rfl⟩

theorem compiledRead {m : Model} {o : Options} {ws : List Warning} (accepted : validate m = .ok ws)
    (culture : hasControl o.culture = false) (schema : hasControl o.defaultSchema = false) :
    ∃ a, compile m o = .ok a ∧ read a.definitionText = .ok (outlineOf m) := by
  obtain ⟨a, made⟩ := validatedCompiles o accepted
  exact ⟨a, made, compiledTextRead made culture schema⟩

end Tabular.Definition

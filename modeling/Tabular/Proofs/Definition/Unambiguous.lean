import Mathlib.Algebra.GroupWithZero.Nat
import Tabular.Proofs.Definition.Shown

/-! Two models with one definition text show the same. What is read of the text says how many objects there
are of each kind, so its blocks can be told from each other, and each block tells its object. -/
namespace Tabular.Definition
open Text Name Validation

def headBlock (m : Model) (o : Options) : List Line := comment 0 m.description ++ modelHead o

def blockGroups (m : Model) (o : Options) : List (List (List Line)) :=
  [[headBlock m o], m.measures.map (measureLines 0), nameBlock 0 "ref table " (m.tables.map (·.name)),
    nameBlock 0 "ref role " (m.roles.map (·.name)), m.tables.flatMap fun t => tableBlocks t o,
    relationshipBlocks m.relationships, m.hierarchies.map hierarchyLines, m.roles.flatMap roleBlocks]

theorem spacedCons (block : List Line) (blocks : List (List Line)) :
    spaced (block :: blocks) = Line.blank :: (block ++ spaced blocks) := by
  simp [spaced]

theorem spacedFlatMap {α : Type} {f : α → List Line} {g : α → List (List Line)} {xs : List α}
    (each : ∀ x ∈ xs, Line.blank :: f x = spaced (g x)) : spaced (xs.map f) = spaced (xs.flatMap g) := by
  rw [spaced, spaced, List.flatMap_map, List.flatMap_assoc]
  exact List.flatMap_congr each

theorem memberBlock (members : List String) :
    memberLines members = spaced (nameBlock 1 "member " members) := by
  cases members with
  | nil => rfl
  | cons m members => simp [memberLines, nameBlock, spaced]

theorem tableRefBlock (names : List String) : refLines "table" names = spaced (nameBlock 0 "ref table " names) := by
  cases names with
  | nil => rfl
  | cons n names => simp [refLines, nameBlock, spaced]

theorem roleRefBlock (names : List String) : refLines "role" names = spaced (nameBlock 0 "ref role " names) := by
  cases names with
  | nil => rfl
  | cons n names => simp [refLines, nameBlock, spaced]

theorem textBlocks {m : Model} (o : Options) (modes : LegalModes m) :
    textLines m o = databaseLines m o ++ spaced (blockGroups m o).flatten := by
  have model : spaced [modelLines m o] = spaced ([headBlock m o] ++ m.measures.map (measureLines 0)
      ++ nameBlock 0 "ref table " (m.tables.map (·.name)) ++ nameBlock 0 "ref role " (m.roles.map (·.name))) := by
    have none : spaced [] = [] := rfl
    simp only [spacedAppend, spacedCons, none, ← tableRefBlock, ← roleRefBlock, modelLines, headBlock,
      modelHead, List.append_nil, List.append_assoc, List.cons_append, List.nil_append]
  have tables : spaced (m.tables.map fun t => tableLines t o) =
      spaced (m.tables.flatMap fun t => tableBlocks t o) := by
    refine spacedFlatMap fun t mem => ?_
    rw [tableLinesParts o (modes t mem), tableBlocks, spacedCons, tableHead, List.append_assoc,
      List.singleton_append]
  have roles : spaced (m.roles.map roleLines) = spaced (m.roles.flatMap roleBlocks) := by
    refine spacedFlatMap fun r _ => ?_
    rw [roleLines, roleBlocks, memberBlock, List.cons_append, spacedCons, spacedAppend, roleHead]
    simp only [List.append_assoc]
  rw [textLines]
  simp only [spacedAppend, model, tables, roles, blockGroups, List.flatten_cons, List.flatten_nil,
    List.append_nil, List.append_assoc]

theorem partInked {t : Table} {o : Options} {b : List Line} (member : b ∈ partBlocks t o) : Inked b := by
  simp only [partBlocks, List.mem_append, List.mem_map, List.mem_singleton] at member
  rcases member with ((rfl | ⟨c, _, rfl⟩) | ⟨x, _, rfl⟩) | ⟨c, _, rfl⟩
  · exact laidInked (partitionRows t o) (by decide)
  · exact laidInked (columnRows c) (by decide)
  · exact laidInked (measureRows 1 x) (by decide)
  · exact laidInked (calculatedColumnRows c) (by decide)

theorem nameBlockInked {depth : Nat} {front : String} {names : List String} {b : List Line}
    (filled : mark depth front ≠ []) (member : b ∈ nameBlock depth front names) : Inked b := by
  cases names with
  | nil => simp [nameBlock] at member
  | cons n names =>
    cases List.mem_singleton.mp member
    exact laidInked (namesRows depth front (n :: names)) (by simpa using filled.symm)

theorem headRows (m : Model) (o : Options) : rows (headBlock m o) =
    laidRows [mark 0 "///", mark 0 "model Model", mark 1 "culture: ",
        mark 1 "defaultPowerBIDataSourceVersion: powerBI_V3", mark 1 "sourceQueryCulture: "]
      [(describedLines m.description).map commentRow, [[]], [o.culture.toList], [[]], [o.culture.toList]] := by
  simp only [headBlock, rowsAppend, commentRows, laidRows]
  simp [modelHead, rows, Line.raw, mark]

theorem databaseRows (m : Model) (o : Options) : rows (databaseLines m o) =
    laidRows [mark 0 "database ", mark 1 "compatibilityLevel: "]
      [[encode m.name.toList], [(toString o.compatibilityLevel).toList]] := by
  simp [databaseLines, rows, Line.raw, mark, quote, laidRows]

theorem headApart {m n : Model} {o : Options} (same : rows (headBlock m o) = rows (headBlock n o)) :
    shownText m.description = shownText n.description := by
  rw [headRows, headRows] at same
  have values := laidApart (by decide) rfl rfl same
  simp only [List.cons.injEq] at values
  exact shownTextApart values.1

theorem databaseApart {m n : Model} {o : Options}
    (same : rows (databaseLines m o) = rows (databaseLines n o)) : m.name = n.name := by
  rw [databaseRows, databaseRows] at same
  have values := laidApart (by decide) rfl rfl same
  simp only [List.cons.injEq, and_true] at values
  exact quoteInjective values

theorem groupsInked {m : Model} {o : Options} : ∀ b ∈ (blockGroups m o).flatten, Inked b := by
  intro b member
  simp only [blockGroups, List.flatten_cons, List.flatten_nil, List.append_nil, List.mem_append,
    List.mem_singleton, List.mem_map, List.mem_flatMap] at member
  rcases member with rfl | ⟨x, _, rfl⟩ | ref | ref | ⟨t, _, table⟩ | relationship | ⟨h, _, rfl⟩ | ⟨r, _, role⟩
  · exact laidInked (headRows m o) (by decide)
  · exact laidInked (measureRows 0 x) (by decide)
  · exact nameBlockInked (by decide) ref
  · exact nameBlockInked (by decide) ref
  · rcases List.mem_cons.mp table with rfl | part
    · exact laidInked (tableHeadRows t) (by decide)
    · exact partInked part
  · rw [relationshipBlocks, ← List.map_uncurry_zip_eq_zipWith] at relationship
    obtain ⟨p, _, rfl⟩ := List.mem_map.mp relationship
    exact laidInked (relationshipRows p.1 p.2) (by decide)
  · exact laidInked (hierarchyRows h) (by decide)
  · simp only [roleBlocks, List.cons_append, List.mem_cons, List.mem_append, List.mem_map] at role
    rcases role with rfl | ⟨p, _, rfl⟩ | member
    · exact laidInked (roleHeadRows r) (by decide)
    · exact laidInked (permissionRows p) (by decide)
    · exact nameBlockInked (by decide) member

def tableSize (t : TableOutline) : Nat :=
  t.columns.length + t.measures.length + t.calculatedColumns.length + 2

def roleSize (r : RoleOutline) : Nat := r.permissions.length + min 1 r.members.length + 1

theorem tableBlocksSize (t : Table) (o : Options) : (tableBlocks t o).length = tableSize (tableOutline t) := by
  simp [tableBlocks, partBlocks, tableSize, tableOutline]
  omega

theorem nameBlockSize (depth : Nat) (front : String) (names : List String) :
    (nameBlock depth front names).length = min 1 names.length := by
  cases names with
  | nil => rfl
  | cons n names => simp [nameBlock]

theorem roleBlocksSize (r : Role) : (roleBlocks r).length = roleSize (roleOutline r) := by
  simp [roleBlocks, roleSize, roleOutline, nameBlockSize]

theorem relationshipBlocksSize (rs : List Relationship) :
    (relationshipBlocks rs).length = (relationshipOutlines rs).length := by
  rw [relationshipBlocks, relationshipOutlines, List.length_zipWith, List.length_zipWith]

def outlineSizes (d : Outline) : List Nat :=
  [1, d.measures.length, min 1 d.tables.length, min 1 d.roles.length, (d.tables.map tableSize).sum,
    d.relationships.length, d.hierarchies.length, (d.roles.map roleSize).sum]

theorem groupSizes (m : Model) (o : Options) :
    (blockGroups m o).map List.length = outlineSizes (outlineOf m) := by
  have tables : (m.tables.flatMap fun t => tableBlocks t o).length =
      ((m.tables.map tableOutline).map tableSize).sum := by
    rw [List.length_flatMap, List.map_map]
    simp only [tableBlocksSize, Function.comp_def]
  have roles : (m.roles.flatMap roleBlocks).length = ((m.roles.map roleOutline).map roleSize).sum := by
    rw [List.length_flatMap, List.map_map]
    simp only [roleBlocksSize, Function.comp_def]
  simp only [blockGroups, List.map_cons, List.map_nil, outlineSizes, outlineOf, tables, roles,
    nameBlockSize, relationshipBlocksSize, List.length_map, List.length_singleton]

theorem relationshipsApart {rs qs : List Relationship}
    (same : (relationshipBlocks rs).map rows = (relationshipBlocks qs).map rows) :
    rs.map shownRelationship = qs.map shownRelationship := by
  have paired (xs : List Relationship) : ((relationshipNames xs).zip xs).map (fun p => shownRelationship p.2) =
      xs.map shownRelationship := by
    have count := (relationshipNamesFrom xs).length_eq
    rw [← zipWithRight count.symm shownRelationship, ← List.map_uncurry_zip_eq_zipWith]
    rfl
  rw [← paired rs, ← paired qs]
  rw [relationshipBlocks, relationshipBlocks, ← List.map_uncurry_zip_eq_zipWith,
    ← List.map_uncurry_zip_eq_zipWith] at same
  exact blockMapApart (fun _ _ => relationshipApart) same

theorem flatMapApart {α β γ : Type} {f : α → List (List Line)} {g : α → β} {k : α → γ} {xs ys : List α}
    (size : ∀ x y, k x = k y → (f x).length = (f y).length)
    (each : ∀ x y, k x = k y → (f x).map rows = (f y).map rows → g x = g y)
    (kinds : xs.map k = ys.map k) (same : (xs.flatMap f).map rows = (ys.flatMap f).map rows) :
    xs.map g = ys.map g := by
  induction xs generalizing ys with
  | nil => rw [List.map_eq_nil_iff.mp kinds.symm]
  | cons x xs ih =>
    cases ys with
    | nil => simp at kinds
    | cons y ys =>
      simp only [List.map_cons, List.cons.injEq] at kinds
      rw [List.flatMap_cons, List.flatMap_cons, List.map_append, List.map_append] at same
      obtain ⟨head, tail⟩ := List.append_inj same (by simpa using size x y kinds.1)
      rw [List.map_cons, List.map_cons, each x y kinds.1 head, ih kinds.2 tail]

theorem shownApart {m n : Model} {o : Options} (left : Legal m) (right : Legal n) (culture : Plain o.culture)
    (schema : Plain o.defaultSchema) (same : render (textLines m o) = render (textLines n o)) :
    shown o m = shown o n := by
  have outlines : outlineOf m = outlineOf n := by
    have back := readText left (plainOptions culture schema)
    rw [same, readText right (plainOptions culture schema)] at back
    exact (Except.ok.inj back).symm
  have text := renderRows (textReads left (plainOptions culture schema)).flat
    (textReads right (plainOptions culture schema)).flat same
  rw [textBlocks o left.modes, textBlocks o right.modes] at text
  have inked (x : Model) : ∀ b ∈ databaseLines x o :: (blockGroups x o).flatten, Inked b :=
    List.forall_mem_cons.mpr ⟨laidInked (databaseRows x o) (by decide), groupsInked⟩
  obtain ⟨database, blocks⟩ := blocksApart (inked m) (inked n) text
  have groups : (blockGroups m o).map (List.map rows) = (blockGroups n o).map (List.map rows) := by
    refine List.eq_iff_flatten_eq.mpr ⟨?_, ?_⟩
    · rw [← List.map_flatten, ← List.map_flatten, blocks]
    · have sizes : (blockGroups m o).map List.length = (blockGroups n o).map List.length := by
        rw [groupSizes, groupSizes, outlines]
      simpa [Function.comp_def] using sizes
  simp only [blockGroups, List.map_cons, List.map_nil, List.cons.injEq, and_true] at groups
  obtain ⟨head, measures, _, _, tables, relationships, hierarchies, roles⟩ := groups
  have tablesSame : m.tables.map (shownTable o) = n.tables.map (shownTable o) := by
    refine flatMapApart (fun t u kind => ?_) (fun t u kind => ?_) (congrArg Outline.tables outlines) tables
    · rw [tableBlocksSize, tableBlocksSize, kind]
    · have columns := congrArg (List.length ∘ TableOutline.columns) kind
      have formulas := congrArg (List.length ∘ TableOutline.measures) kind
      exact tableApart (by simpa [tableOutline] using columns) (by simpa [tableOutline] using formulas)
  have rolesSame : m.roles.map shownRole = n.roles.map shownRole := by
    refine flatMapApart (fun r q kind => ?_) (fun r q kind => ?_) (congrArg Outline.roles outlines) roles
    · rw [roleBlocksSize, roleBlocksSize, kind]
    · have permissions := congrArg (List.length ∘ RoleOutline.permissions) kind
      exact roleApart (by simpa [roleOutline] using permissions)
  have measuresSame : m.measures.map shownMeasure = n.measures.map shownMeasure :=
    blockMapApart (fun _ _ => measureApart (by decide)) measures
  have hierarchiesSame : m.hierarchies.map shownHierarchy = n.hierarchies.map shownHierarchy :=
    blockMapApart (fun _ _ => hierarchyApart) hierarchies
  simp only [shown, Model.mk.injEq]
  exact ⟨databaseApart database, headApart head, tablesSame, measuresSame,
    relationshipsApart relationships, hierarchiesSame, rolesSame⟩

/-- Descriptions are told up to the blanks around them and at the ends of their lines, so a description that is absent
and one that is blank count as the same. Whether a cached table has a query at all is told. -/
theorem textUnambiguous {m n : Model} {o : Options} {ws vs : List Warning} (left : validate m = .ok ws)
    (right : validate n = .ok vs) (culture : hasControl o.culture = false)
    (schema : hasControl o.defaultSchema = false) :
    ∃ a b, compile m o = .ok a ∧ compile n o = .ok b ∧
      (a.definitionText = b.definitionText → shown o m = shown o n) := by
  obtain ⟨a, madeA, _⟩ := compiledRead left culture schema
  obtain ⟨b, madeB, _⟩ := compiledRead right culture schema
  refine ⟨a, b, madeA, madeB, fun same => ?_⟩
  rw [definitionTextLines madeA, definitionTextLines madeB] at same
  exact shownApart (validateOk.mp ⟨ws, left⟩) (validateOk.mp ⟨vs, right⟩) (hasControlPlain.mp culture)
    (hasControlPlain.mp schema) same

def terse : Model where
  name := "Shop"
  tables := [{ name := "Sales", description := some "Orders\n/// all", source := some "select 1"
               measures := [{ name := "Total", expression := "VAR x = 1\nRETURN x" }] }]
  roles := [{ name := "Reader", permissions := [⟨"Sales", ""⟩] }]

def wordy : Model where
  name := "Shop"
  description := some " \t"
  tables := [{ name := "Sales", description := some " Orders \r\n/// all\n", source := some "\nselect 1 "
               schema := some "dbo", connection := some "localhost"
               measures := [{ name := "Total", expression := "  VAR x = 1\n\n  RETURN x\t"
                              owner := some "Sales" }] }]
  roles := [{ name := "Reader", description := some "", permissions := [⟨"Sales", "\n\n"⟩] }]

theorem terseShowsWordy : terse ≠ wordy ∧ ∃ a b, compile terse {} = .ok a ∧ compile wordy {} = .ok b ∧
    a.definitionText = b.definitionText ∧ shown {} terse = shown {} wordy := by
  have first : validate terse = .ok [.noColumns "Sales"] := by decide
  have second : validate wordy = .ok [.noColumns "Sales"] := by decide
  have lines : textLines terse {} = textLines wordy {} := by decide
  obtain ⟨a, b, madeA, madeB, apart⟩ := textUnambiguous (o := {}) first second (by decide) (by decide)
  have same : a.definitionText = b.definitionText := by
    rw [definitionTextLines madeA, definitionTextLines madeB, lines]
  exact ⟨by decide, a, b, madeA, madeB, same, apart same⟩

end Tabular.Definition

import Tabular.Proofs.Definition.Table
import Tabular.Proofs.Text.Numbered

/-! The other objects of a text read back: relationships, hierarchies, roles, references, and the heads
that stand for nothing. -/
namespace Tabular.Definition
open Text Unicode Name Validation

section Items
variable {s : Section} {rest : List Char}

theorem measureItem (head : s.head.text = "measure".toList ++ ' ' :: rest) :
    readItem s = do
      let n ← readName s.head rest
      return .measure ⟨n.1, ← readFormula s n.2⟩ := by
  rw [readItem, head, splitWordAt (by decide)]
  rfl

theorem relationshipItem (head : s.head.text = "relationship".toList ++ ' ' :: rest) :
    readItem s = do
      let n ← readName s.head rest
      return .relationship (← readRelationship s n.1) := by
  rw [readItem, head, splitWordAt (by decide)]
  rfl

theorem hierarchyItem (head : s.head.text = "hierarchy".toList ++ ' ' :: rest) :
    readItem s = do
      let n ← readName s.head rest
      return .hierarchy (← readHierarchy s n.1) := by
  rw [readItem, head, splitWordAt (by decide)]
  rfl

theorem roleItem (head : s.head.text = "role".toList ++ ' ' :: rest) :
    readItem s = do
      let n ← readName s.head rest
      return .role (← readRole s n.1) := by
  rw [readItem, head, splitWordAt (by decide)]
  rfl

theorem refItem (head : s.head.text = "ref".toList ++ ' ' :: rest) : readItem s = readRef s rest := by
  rw [readItem, head, splitWordAt (by decide)]
  rfl

theorem otherItem {w : String} (isWord : IsWord w) (known : w = "model" ∨ w = "database")
    (head : s.head.text = w.toList ++ ' ' :: rest) : readItem s = .ok .other := by
  rw [readItem, head, splitWordAt isWord]
  rcases known with rfl | rfl <;> rfl

theorem permissionPart (head : s.head.text = "tablePermission".toList ++ ' ' :: rest) :
    readRolePart s = do
      let n ← readName s.head rest
      return .permission n.1 (← readFormula s n.2) := by
  rw [readRolePart, head, splitWordAt (by decide)]
  rfl

theorem memberPart (head : s.head.text = "member".toList ++ ' ' :: rest) :
    readRolePart s = do
      let n ← readName s.head rest
      return .member n.1 := by
  rw [readRolePart, head, splitWordAt (by decide)]
  rfl

end Items

def hierarchyOutline (h : Hierarchy) : HierarchyOutline := ⟨h.name, h.levels⟩

theorem levelReads {l : String} (legal : LegalName l) :
    Reads 1 readLevel [⟨1, "level " ++ quote l⟩] [some l] := by
  refine .named "level" (by decide) (by decide) (nameFlat legal) (by simp [Flat]) (by simp [Below])
    fun n => ?_
  rw [readLevel, splitWordAt (by decide)]
  simp only [if_true, readNameWhole]
  rfl

theorem hierarchyTableReads {t : Option String} (flat : ∀ n ∈ t, OneLine n.toList) :
    Reads 1 readLevel (property? 1 "table" (t.map quote)) (t.toList.map fun _ => none) := by
  cases t with
  | none => exact .nil
  | some n =>
    refine .named "table:" (by decide) (by decide) (flat n rfl) (by simp [Flat]) (by simp [Below])
      fun n => ?_
    rw [readLevel, splitWordAt (by decide)]
    rfl

theorem hierarchyReads {h : Hierarchy} (legal : LegalName h.name) (levels : ∀ l ∈ h.levels, LegalName l)
    (table : ∀ n ∈ h.table, OneLine n.toList) :
    Reads 0 readItem (hierarchyLines h) [.hierarchy (hierarchyOutline h)] := by
  have inside : Reads (0 + 1) readLevel
      (property? 1 "table" (h.table.map quote) ++ h.levels.map fun l => ⟨1, "level " ++ quote l⟩)
      (h.table.toList.map (fun _ => none) ++ h.levels.map some) := by
    refine (hierarchyTableReads table).append ?_
    exact .singles fun l mem => levelReads (levels l mem)
  rw [hierarchyLines, List.append_assoc, List.append_assoc, List.singleton_append]
  refine .commented _ (.named "hierarchy" (by decide) (by decide) (nameFlat legal) inside.flat inside.below
    fun n => ?_)
  have found := inside.parts n (n + 1) ("hierarchy".toList ++ ' ' :: encode h.name.toList)
  have kept : (h.table.toList.map (fun _ => none) ++ h.levels.map some).filterMap id = h.levels := by
    cases h.table <;> simp
  rw [hierarchyItem rfl, readNameWhole]
  simp only [readHierarchy, found]
  change Except.ok (Item.hierarchy ⟨h.name, _⟩) = _
  rw [kept, hierarchyOutline]

def permissionOutline (p : TablePermission) : String × String :=
  (p.table, readBack (Expression.normalize p.filter))

def roleOutline (r : Role) : RoleOutline := ⟨r.name, r.permissions.map permissionOutline, r.members⟩

def roleParts (r : Role) : List RolePart :=
  [.other] ++ r.permissions.map (fun p => .permission p.table (readBack (Expression.normalize p.filter)))
    ++ r.members.map .member

theorem rolePartsAdd (r : Role) : (roleParts r).foldl RoleOutline.add ⟨r.name, [], []⟩ = roleOutline r := by
  have permissions := foldlGathers RoleOutline.add
    (fun p => .permission p.table (readBack (Expression.normalize p.filter)))
    (fun s ps => { s with permissions := s.permissions ++ ps.map permissionOutline })
    (by simp) (by simp [RoleOutline.add, permissionOutline])
  have members := foldlGathers RoleOutline.add .member
    (fun s ms => { s with members := s.members ++ ms }) (by simp) (by simp [RoleOutline.add])
  rw [roleParts, List.foldl_append, List.foldl_append, permissions, members]
  rfl

theorem permissionReads {p : TablePermission} (legal : LegalName p.table) :
    Reads 1 readRolePart (formula 1 ("tablePermission " ++ quote p.table) p.filter)
      [.permission p.table (readBack (Expression.normalize p.filter))] := by
  have body : Reads 1 readRolePart _ [.permission p.table (readBack (Expression.normalize p.filter))] :=
    .formula "tablePermission " RolePart.permission (by decide) (fun _ _ => permissionPart) (by decide)
      (nameFlat legal) .nil
  rwa [List.append_nil] at body

theorem memberReads {m : String} (legal : LegalName m) :
    Reads 1 readRolePart [⟨1, "member " ++ quote m⟩] [.member m] := by
  refine .named "member" (by decide) (by decide) (nameFlat legal) (by simp [Flat]) (by simp [Below])
    fun n => ?_
  rw [memberPart rfl, readNameWhole]
  rfl

theorem membersRead {ms : List String} (legal : ∀ m ∈ ms, LegalName m) :
    Reads 1 readRolePart (memberLines ms) (ms.map .member) := by
  cases ms with
  | nil => exact .nil
  | cons m ms =>
    exact Reads.blank (.singles fun m mem => memberReads (legal m mem))

theorem permissionLineReads : Reads 1 readRolePart [⟨1, "modelPermission: read"⟩] [.other] := by
  have text : "modelPermission: read".toList = "modelPermission:".toList ++ ' ' :: "read".toList := by decide
  have solid : Solid "read".toList := by decide
  refine .headed (by decide) rfl text solid.line (by simp [Flat]) (by simp [Below]) fun n => ?_
  rw [readRolePart, splitWordAt (by decide)]
  rfl

theorem roleReads {r : Role} (names : LegalRoleNames r) :
    Reads 0 readItem (roleLines r) [.role (roleOutline r)] := by
  have permissions : Reads 1 readRolePart (spaced (r.permissions.map fun p =>
      formula 1 ("tablePermission " ++ quote p.table) p.filter)) _ :=
    .spaced fun p mem => permissionReads (names.permissions p mem)
  have inside : Reads (0 + 1) readRolePart ([⟨1, "modelPermission: read"⟩] ++ _ ++ _) (roleParts r) :=
    (permissionLineReads.append permissions).append (membersRead names.members)
  have lines : roleLines r = comment 0 r.description ++ (⟨0, "role " ++ quote r.name⟩ ::
      ([⟨1, "modelPermission: read"⟩] ++ spaced (r.permissions.map fun p =>
        formula 1 ("tablePermission " ++ quote p.table) p.filter) ++ memberLines r.members)) := by
    simp only [roleLines, List.append_assoc, List.cons_append, List.nil_append]
  rw [lines]
  refine .commented _ (.named "role" (by decide) (by decide) (nameFlat names.role) inside.flat
    inside.below fun n => ?_)
  have found := inside.parts n (n + 1) ("role".toList ++ ' ' :: encode r.name.toList)
  rw [roleItem rfl, readNameWhole, ← rolePartsAdd]
  simp only [readRole, found]
  rfl

def relationshipOutline (name : String) (r : Relationship) : RelationshipOutline :=
  ⟨name, r.fromTable, r.fromColumn, r.toTable, r.toColumn, r.cardinality, r.crossFilter, r.isActive⟩

theorem endsSolid (c : Cardinality) : Solid c.ends.1.toList ∧ Solid c.ends.2.toList := by
  cases c <;> decide

theorem endsBack (c : Cardinality) : Cardinality.ofEnds c.ends.1 c.ends.2 = .ok c := by
  cases c <;> rfl

theorem encodePairText {table column : String} (table' : OneLine table.toList)
    (column' : OneLine column.toList) : StartsFilled (encodePair table.toList column.toList) ∧
      LineText (encodePair table.toList column.toList) := by
  have front := encodeFilled table.toList
  have left := encodeLine table'
  have right := encodeLine column'
  obtain ⟨c, rest, first⟩ := List.exists_cons_of_ne_nil front.1
  refine ⟨fun d start => ?_, ?_⟩
  · have same : (encode table.toList).head? = some d := by simpa [encodePair, first] using start
    exact front.2.1 d same
  · have flat : OneLine (encode table.toList ++ ['.']) := by simpa [OneLine] using left.flat
    simpa [encodePair] using LineText.append flat right

def endpointLines (r : Relationship) : List Line :=
  [⟨1, "fromColumn: " ++ qualified r.fromTable r.fromColumn⟩,
    ⟨1, "toColumn: " ++ qualified r.toTable r.toColumn⟩,
    ⟨1, "fromCardinality: " ++ r.cardinality.ends.1⟩,
    ⟨1, "toCardinality: " ++ r.cardinality.ends.2⟩,
    ⟨1, "crossFilteringBehavior: " ++ Vocabulary.token r.crossFilter⟩]
    ++ flag 1 "isActive: false" (!r.isActive)

def endpointProperties (r : Relationship) : List (List Char × List Char) :=
  [("fromColumn".toList, encodePair r.fromTable.toList r.fromColumn.toList),
    ("toColumn".toList, encodePair r.toTable.toList r.toColumn.toList),
    ("fromCardinality".toList, r.cardinality.ends.1.toList),
    ("toCardinality".toList, r.cardinality.ends.2.toList),
    ("crossFilteringBehavior".toList, (Vocabulary.token r.crossFilter).toList)]
    ++ if r.isActive then [] else [("isActive".toList, "false".toList)]

structure FlatEndpoints (r : Relationship) : Prop where
  fromTable : OneLine r.fromTable.toList
  fromColumn : OneLine r.fromColumn.toList
  toTable : OneLine r.toTable.toList
  toColumn : OneLine r.toColumn.toList

theorem endpointLinesAttached {r : Relationship} (flat : FlatEndpoints r) : Attached 0 (endpointLines r) := by
  have ends := endsSolid r.cardinality
  have filter := (filtersSpelled.solid r.crossFilter).line.flat
  refine .append ⟨?_, by simp, by simp [Lettered]⟩ (.flag (by decide) (by decide) _)
  simpa [Flat, OneLine, qualified] using ⟨(encodePairText flat.fromTable flat.fromColumn).2.flat,
    (encodePairText flat.toTable flat.toColumn).2.flat, ends.1.line.flat, ends.2.line.flat, filter⟩

theorem endpointLinesBack {r : Relationship} (flat : FlatEndpoints r) (k n : Nat) (text : List Char) :
    properties ⟨⟨k, 0, text⟩, scan n (endpointLines r)⟩ = endpointProperties r := by
  have ends := endsSolid r.cardinality
  have filter := filtersSpelled.solid r.crossFilter
  have start := encodePairText flat.fromTable flat.fromColumn
  have finish := encodePairText flat.toTable flat.toColumn
  have fromColumn : propertyOf (trimEnd ("fromColumn: " ++ qualified r.fromTable r.fromColumn).toList) =
      ("fromColumn".toList, encodePair r.fromTable.toList r.fromColumn.toList) :=
    propertyLine (by simp [qualified]) (by decide) start.1 start.2
  have toColumn : propertyOf (trimEnd ("toColumn: " ++ qualified r.toTable r.toColumn).toList) =
      ("toColumn".toList, encodePair r.toTable.toList r.toColumn.toList) :=
    propertyLine (by simp [qualified]) (by decide) finish.1 finish.2
  have fromEnd : propertyOf (trimEnd ("fromCardinality: " ++ r.cardinality.ends.1).toList) =
      ("fromCardinality".toList, r.cardinality.ends.1.toList) :=
    propertyLine (by simp) (by decide) ends.1.starts ends.1.line
  have toEnd : propertyOf (trimEnd ("toCardinality: " ++ r.cardinality.ends.2).toList) =
      ("toCardinality".toList, r.cardinality.ends.2.toList) :=
    propertyLine (by simp) (by decide) ends.2.starts ends.2.line
  have crossing : propertyOf (trimEnd ("crossFilteringBehavior: " ++ Vocabulary.token r.crossFilter).toList) =
      ("crossFilteringBehavior".toList, (Vocabulary.token r.crossFilter).toList) :=
    propertyLine (by simp) (by decide) filter.starts filter.line
  have inactive : (flag 1 "isActive: false" (!r.isActive)).map (fun l => propertyOf (trimEnd l.text.toList)) =
      if r.isActive then [] else [("isActive".toList, "false".toList)] := by
    cases r.isActive <;> decide
  rw [← List.append_nil (endpointLines r), propertiesBack (endpointLinesAttached flat) (by simp [Below])]
  simp only [endpointLines, endpointProperties, List.map_append, List.map_cons, List.map_nil, fromColumn,
    toColumn, fromEnd, toEnd, crossing, inactive]

theorem endpointFound {name key : String} {props : List (List Char × List Char)} {table column : String}
    (found : props.lookup key.toList = some (encodePair table.toList column.toList)) :
    readEndpoint name props key = .ok (table, column) := by
  have value : required name props key = .ok (encodePair table.toList column.toList) := by
    rw [required, found]
  have token := decodePairEncode table.toList column.toList
  rw [readEndpoint, value]
  simp only [bind, Except.bind]
  rw [token]
  simp only [String.ofList_toList]
  rfl

theorem relationshipBack {s : Section} {r : Relationship} (name : String)
    (props : properties s = endpointProperties r) :
    readRelationship s name = .ok (relationshipOutline name r) := by
  have source : readEndpoint name (endpointProperties r) "fromColumn" = .ok (r.fromTable, r.fromColumn) :=
    endpointFound rfl
  have target : readEndpoint name (endpointProperties r) "toColumn" = .ok (r.toTable, r.toColumn) :=
    endpointFound rfl
  have sourceEnd : required name (endpointProperties r) "fromCardinality" =
      .ok r.cardinality.ends.1.toList := rfl
  have targetEnd : required name (endpointProperties r) "toCardinality" =
      .ok r.cardinality.ends.2.toList := rfl
  have filter : required name (endpointProperties r) "crossFilteringBehavior" =
      .ok (Vocabulary.token r.crossFilter).toList := rfl
  have active : ((endpointProperties r).lookup "isActive".toList != some "false".toList) = r.isActive := by
    cases h : r.isActive <;> simp [endpointProperties, h, List.lookup_cons]
  unfold readRelationship
  simp only [props, source, target, sourceEnd, targetEnd, filter, active]
  change (do
    let cardinality ← liftWord (Cardinality.ofEnds (String.ofList r.cardinality.ends.1.toList)
      (String.ofList r.cardinality.ends.2.toList))
    let crossFilter ← liftWord (Vocabulary.ofToken (String.ofList (Vocabulary.token r.crossFilter).toList))
    return (⟨name, r.fromTable, r.fromColumn, r.toTable, r.toColumn, cardinality, crossFilter, r.isActive⟩ :
      RelationshipOutline)) = _
  rw [String.ofList_toList, String.ofList_toList, String.ofList_toList, endsBack, filtersSpelled.back]
  rfl

theorem relationshipReads {r : Relationship} {name : String} (flat : OneLine name.toList)
    (endpoints : FlatEndpoints r) :
    Reads 0 readItem (relationshipLines name r) [.relationship (relationshipOutline name r)] := by
  have lines : relationshipLines name r =
      comment 0 r.description ++ (⟨0, "relationship " ++ quote name⟩ :: endpointLines r) := by
    simp only [relationshipLines, endpointLines, List.append_assoc, List.cons_append, List.nil_append]
  have attached := endpointLinesAttached endpoints
  rw [lines]
  refine .commented _ (.named "relationship" (by decide) (by decide) flat attached.flat attached.below
    fun n => ?_)
  have back := relationshipBack name
    (endpointLinesBack endpoints n (n + 1) ("relationship".toList ++ ' ' :: encode name.toList))
  rw [relationshipItem rfl, readNameWhole]
  simp only [bind, Except.bind, back]
  rfl

theorem refReads {kind n : String} {item : Item} (isWord : IsWord kind) (flat : OneLine n.toList)
    (known : kind = "table" ∧ item = .tableRef n ∨ kind = "role" ∧ item = .roleRef n) :
    Reads 0 readItem [⟨0, "ref " ++ kind ++ " " ++ quote n⟩] [item] := by
  have text : ("ref " ++ kind ++ " " ++ quote n).toList =
      "ref".toList ++ ' ' :: (kind.toList ++ ' ' :: encode n.toList) := by simp [quote]
  have ends : LineText (kind.toList ++ ' ' :: encode n.toList) := by
    have front : OneLine (kind.toList ++ [' ']) := by
      simpa [OneLine] using wordFlat isWord
    simpa using LineText.append front (encodeLine flat)
  refine .headed (by decide) rfl text ends (by simp [Flat]) (by simp [Below]) fun k => ?_
  rw [refItem rfl, readRef, splitWordAt isWord]
  simp only [readNameWhole]
  rcases known with ⟨rfl, rfl⟩ | ⟨rfl, rfl⟩ <;> rfl

theorem refsRead {kind : String} {mk : String → Item} {names : List String}
    (each : ∀ n ∈ names, Reads 0 readItem [⟨0, "ref " ++ kind ++ " " ++ quote n⟩] [mk n]) :
    Reads 0 readItem (refLines kind names) (names.map mk) := by
  cases names with
  | nil => exact .nil
  | cons n names => exact Reads.blank (.singles each)

theorem databaseReads {m : Model} (o : Options) (legal : LegalName m.name) :
    Reads 0 readItem (databaseLines m o) [.other] := by
  have level : Solid (toString o.compatibilityLevel).toList := by
    rw [Nat.toString_eq_ofList_toDigits, String.toList_ofList]
    exact decimalSolid o.compatibilityLevel
  have attached : Attached 0 [⟨1, "compatibilityLevel: " ++ toString o.compatibilityLevel⟩] :=
    .valued (by decide) (by decide) level.line.flat
  refine .named "database" (by decide) (by decide) (nameFlat legal) attached.flat attached.below fun n => ?_
  exact otherItem (by decide) (.inr rfl) rfl

def modelHead (o : Options) : List Line :=
  [⟨0, "model Model"⟩, ⟨1, "culture: " ++ o.culture⟩,
    ⟨1, "defaultPowerBIDataSourceVersion: powerBI_V3"⟩, ⟨1, "sourceQueryCulture: " ++ o.culture⟩]

theorem modelHeadReads {o : Options} (culture : OneLine o.culture.toList) :
    Reads 0 readItem (modelHead o) [.other] := by
  have text : "model Model".toList = "model".toList ++ ' ' :: "Model".toList := by decide
  have solid : Solid "Model".toList := by decide
  have attached : Attached 0 [⟨1, "culture: " ++ o.culture⟩,
      ⟨1, "defaultPowerBIDataSourceVersion: powerBI_V3"⟩, ⟨1, "sourceQueryCulture: " ++ o.culture⟩] :=
    .append (.valued (by decide) (by decide) culture)
      (.append (.line (by decide) (by decide)) (.valued (by decide) (by decide) culture))
  refine .headed (by decide) rfl text solid.line attached.flat attached.below fun n => ?_
  exact otherItem (by decide) (.inl rfl) rfl

end Tabular.Definition

import Mathlib.Data.List.Perm.Basic
import Tabular.Proofs.Definition.Document

/-! The files of a definition, joined in any order. The references in one of them give the tables and roles
back in the order of the model; everything else comes from one file alone. -/
namespace Tabular.Definition
open Text Validation

theorem flattenPerm {α : Type} {xss yss : List (List α)} (perm : xss.Perm yss)
    (alone : yss.Pairwise fun a b => a = [] ∨ b = []) : xss.flatten = yss.flatten := by
  induction perm with
  | nil => rfl
  | cons x _ ih => rw [List.flatten_cons, List.flatten_cons, ih (List.pairwise_cons.mp alone).2]
  | swap x y l =>
    rcases (List.pairwise_cons.mp alone).1 y List.mem_cons_self with rfl | rfl
    · rfl
    · rfl
  | trans _ second ih₁ ih₂ => exact (ih₁ ((second.pairwise_iff Or.symm).mpr alone)).trans (ih₂ alone)

theorem aloneAmong {α : Type} {xss opt yss : List (List α)} (before : ∀ l ∈ xss, l = [])
    (short : opt.length ≤ 1) (after : ∀ l ∈ yss, l = []) :
    (xss ++ opt ++ yss).Pairwise fun a b => a = [] ∨ b = [] := by
  have one : opt.Pairwise fun a b => a = [] ∨ b = [] := by
    match opt, short with
    | [], _ => exact .nil
    | [x], _ => exact List.pairwise_singleton ..
  rw [List.pairwise_append, List.pairwise_append]
  refine ⟨⟨?_, one, fun a mem _ _ => .inl (before a mem)⟩, ?_, fun _ _ b mem => .inr (after b mem)⟩
  · exact List.pairwise_of_forall_mem_list fun a mem _ _ => .inl (before a mem)
  · exact List.pairwise_of_forall_mem_list fun a mem _ _ => .inl (after a mem)

theorem loneShort {α : Type} (xs : List α) : (lone xs).length ≤ 1 := by
  unfold lone
  split <;> simp

theorem loneMem {α : Type} {xs ys : List α} (member : ys ∈ lone xs) : ys = xs := by
  unfold lone at member
  split at member
  · cases member
  · exact List.mem_singleton.mp member

section Once
variable {α β : Type} {g : α → Option β}

def Silent (g : α → Option β) (xss : List (List α)) : Prop := ∀ l ∈ xss, ∀ x ∈ l, g x = none

theorem Silent.append {xss yss : List (List α)} (left : Silent g xss) (right : Silent g yss) :
    Silent g (xss ++ yss) := List.forall_mem_append.mpr ⟨left, right⟩

theorem Silent.mapped {xss : List (List α)} (silent : Silent g xss) :
    ∀ l ∈ xss.map (·.filterMap g), l = [] := by
  intro l member
  obtain ⟨ys, mem, rfl⟩ := List.mem_map.mp member
  exact List.filterMap_eq_nil_iff.mpr (silent ys mem)

theorem Silent.flatten {xss : List (List α)} (silent : Silent g xss) : xss.flatten.filterMap g = [] := by
  rw [List.filterMap_flatten, List.flatten_eq_nil_iff]
  exact silent.mapped

theorem onceShuffled {xss before after : List (List α)} {group : List α}
    (perm : xss.Perm (before ++ lone group ++ after)) (front : Silent g before) (back : Silent g after) :
    xss.flatten.filterMap g = group.filterMap g := by
  have shuffled := perm.map (·.filterMap g)
  rw [List.map_append, List.map_append] at shuffled
  have short : ((lone group).map (·.filterMap g)).length ≤ 1 := by simpa using loneShort group
  calc xss.flatten.filterMap g
    _ = (xss.map (·.filterMap g)).flatten := List.filterMap_flatten
    _ = _ := flattenPerm shuffled (aloneAmong front.mapped short back.mapped)
    _ = (before ++ lone group ++ after).flatten.filterMap g := by
      rw [← List.map_append, ← List.map_append, List.filterMap_flatten]
    _ = group.filterMap g := by
      simp only [List.flatten_append, List.filterMap_append, front.flatten, back.flatten, loneFlatten,
        List.nil_append, List.append_nil]

end Once

def Nameless (front : List (List Item)) : Prop := ∀ l ∈ front, l = [.other]

section Kinds
variable {m : Model} {β : Type} {g : Item → Option β}

theorem namelessSilent {front : List (List Item)} (nameless : Nameless front) (other : g .other = none) :
    Silent g front := by
  intro l member x inside
  rw [nameless l member] at inside
  rw [List.mem_singleton.mp inside, other]

theorem modelSilent (other : g .other = none) (measure : ∀ f, g (.measure f) = none)
    (tableRef : ∀ n, g (.tableRef n) = none) (roleRef : ∀ n, g (.roleRef n) = none) :
    Silent g [modelItems m] := by
  intro l member x inside
  rw [List.mem_singleton.mp member] at inside
  simp only [modelItems, List.mem_append, List.mem_map, List.mem_singleton] at inside
  rcases inside with ((rfl | ⟨f, _, rfl⟩) | ⟨t, _, rfl⟩) | ⟨r, _, rfl⟩
  · exact other
  · exact measure _
  · exact tableRef _
  · exact roleRef _

theorem tablesSilent (table : ∀ t, g (.table t) = none) : Silent g (tableGroups m) := by
  intro l member x inside
  obtain ⟨t, _, rfl⟩ := List.mem_map.mp member
  rw [List.mem_singleton.mp inside, table]

theorem earlySilent {front : List (List Item)} (nameless : Nameless front) (other : g .other = none)
    (measure : ∀ f, g (.measure f) = none) (tableRef : ∀ n, g (.tableRef n) = none)
    (roleRef : ∀ n, g (.roleRef n) = none) (table : ∀ t, g (.table t) = none) :
    Silent g (front ++ [modelItems m] ++ tableGroups m) := by
  have model := (namelessSilent nameless other).append (modelSilent (m := m) other measure tableRef roleRef)
  exact model.append (tablesSilent table)

theorem relationshipsSilent (relationship : ∀ r, g (.relationship r) = none) :
    Silent g (lone (relationshipItems m)) := by
  intro l member x inside
  rw [loneMem member] at inside
  obtain ⟨r, _, rfl⟩ := List.mem_map.mp inside
  exact relationship r

theorem hierarchiesSilent (hierarchy : ∀ h, g (.hierarchy h) = none) : Silent g (lone (hierarchyItems m)) := by
  intro l member x inside
  rw [loneMem member] at inside
  obtain ⟨h, _, rfl⟩ := List.mem_map.mp inside
  exact hierarchy _

theorem rolesSilent (role : ∀ r, g (.role r) = none) : Silent g (roleGroups m) := by
  intro l member x inside
  obtain ⟨r, _, rfl⟩ := List.mem_map.mp member
  rw [List.mem_singleton.mp inside, role]

end Kinds

section Shuffled
variable {m : Model} {front xss : List (List Item)} (nameless : Nameless front)
  (perm : xss.Perm (front ++ itemGroups m))
include nameless perm

theorem modelShuffled {β : Type} {g : Item → Option β} (other : g .other = none)
    (table : ∀ t, g (.table t) = none) (relationship : ∀ r, g (.relationship r) = none)
    (hierarchy : ∀ h, g (.hierarchy h) = none) (role : ∀ r, g (.role r) = none) :
    xss.flatten.filterMap g = (modelItems m).filterMap g := by
  have whole : front ++ itemGroups m = front ++ lone (modelItems m)
      ++ (tableGroups m ++ lone (relationshipItems m) ++ lone (hierarchyItems m) ++ roleGroups m) := by
    have filled : lone (modelItems m) = [modelItems m] := rfl
    simp [itemGroups, filled]
  rw [whole] at perm
  refine onceShuffled perm (namelessSilent nameless other) (Silent.append ?_ (rolesSilent role))
  exact ((tablesSilent table).append (relationshipsSilent relationship)).append (hierarchiesSilent hierarchy)

theorem relationshipsShuffled : (outline xss.flatten).relationships = relationshipOutlines m.relationships := by
  have whole : front ++ itemGroups m = front ++ [modelItems m] ++ tableGroups m ++ lone (relationshipItems m)
      ++ (lone (hierarchyItems m) ++ roleGroups m) := by
    simp [itemGroups]
  rw [whole] at perm
  refine (onceShuffled perm ?_ ?_).trans ?_
  · exact earlySilent nameless rfl (fun _ => rfl) (fun _ => rfl) (fun _ => rfl) fun _ => rfl
  · exact (hierarchiesSilent fun _ => rfl).append (rolesSilent fun _ => rfl)
  · simp [relationshipItems, List.filterMap_map]

theorem hierarchiesShuffled : (outline xss.flatten).hierarchies = m.hierarchies.map hierarchyOutline := by
  have whole : front ++ itemGroups m = front ++ [modelItems m] ++ tableGroups m ++ lone (relationshipItems m)
      ++ lone (hierarchyItems m) ++ roleGroups m := by
    simp [itemGroups]
  rw [whole] at perm
  refine (onceShuffled perm ?_ (rolesSilent fun _ => rfl)).trans ?_
  · refine Silent.append ?_ (relationshipsSilent fun _ => rfl)
    exact earlySilent nameless rfl (fun _ => rfl) (fun _ => rfl) (fun _ => rfl) fun _ => rfl
  · simp [hierarchyItems, List.filterMap_map]

theorem referredShuffled {α : Type} {g : Item → Option α} (other : g .other = none) {items : List α}
    (found : (textItems m).filterMap g = items) {name : α → String} (distinct : (items.map name).Nodup) :
    sortByRefs name (items.map name) (xss.flatten.filterMap g) = items := by
  have kept : (xss.flatten.filterMap g).Perm items := by
    have whole := perm.flatten.filterMap g
    rw [List.flatten_append, List.filterMap_append, (namelessSilent nameless other).flatten] at whole
    rw [← itemGroupsFlatten, List.filterMap_cons_none other] at found
    rwa [found] at whole
  rw [sortByRefsPerm name _ kept distinct fun x member => List.mem_map_of_mem member]
  exact sortByRefsSelf rfl distinct

theorem outlineShuffled (distinct : DistinctNames m) : outline xss.flatten = outlineOf m := by
  have tableNames : (m.tables.map tableOutline).map (·.name) = m.tables.map (·.name) := by
    rw [List.map_map]
    rfl
  have roleNames : (m.roles.map roleOutline).map (·.name) = m.roles.map (·.name) := by
    rw [List.map_map]
    rfl
  have tableNamed : tableRefs xss.flatten = (m.tables.map tableOutline).map (·.name) := by
    refine (modelShuffled nameless perm rfl (fun _ => rfl) (fun _ => rfl) (fun _ => rfl) fun _ => rfl).trans ?_
    simp [tableNames, modelItems, List.filterMap_append, List.filterMap_map]
  have roleNamed : roleRefs xss.flatten = (m.roles.map roleOutline).map (·.name) := by
    refine (modelShuffled nameless perm rfl (fun _ => rfl) (fun _ => rfl) (fun _ => rfl) fun _ => rfl).trans ?_
    simp [roleNames, modelItems, List.filterMap_append, List.filterMap_map]
  have tables : (outline xss.flatten).tables = m.tables.map tableOutline := by
    rw [outline, tableNamed]
    refine referredShuffled nameless perm rfl ?_ (tableNames ▸ distinct.tables)
    simp [textItems, modelItems, List.filterMap_append, List.filterMap_map]
  have roles : (outline xss.flatten).roles = m.roles.map roleOutline := by
    rw [outline, roleNamed]
    refine referredShuffled nameless perm rfl ?_ (roleNames ▸ distinct.roles)
    simp [textItems, modelItems, List.filterMap_append, List.filterMap_map]
  have measures : (outline xss.flatten).measures = m.measures.map measureOutline := by
    refine (modelShuffled nameless perm rfl (fun _ => rfl) (fun _ => rfl) (fun _ => rfl) fun _ => rfl).trans ?_
    simp [modelItems, List.filterMap_append, List.filterMap_map]
  calc outline xss.flatten
    _ = ⟨(outline xss.flatten).tables, (outline xss.flatten).measures, (outline xss.flatten).relationships,
        (outline xss.flatten).hierarchies, (outline xss.flatten).roles, tableRefs xss.flatten,
        roleRefs xss.flatten⟩ := rfl
    _ = outlineOf m := by
      rw [tables, measures, relationshipsShuffled nameless perm, hierarchiesShuffled nameless perm, roles,
        tableNamed, roleNamed, tableNames, roleNames]
      rfl

end Shuffled

def Holds (text : String) (items : List Item) : Prop := ∃ ls, text = render ls ∧ Reads 0 readItem ls items

theorem filesHold {m : Model} {o : Options} (legal : Legal m) (culture : Plain o.culture)
    (schema : Plain o.defaultSchema) :
    List.Forall₂ Holds ((files m o).map (·.contents)) ([.other] :: itemGroups m) := by
  rw [fileBlocksContents, List.forall₂_map_left_iff]
  exact (blocksRead legal (plainOptions culture schema)).imp fun block _ reads => ⟨block, rfl, reads⟩

theorem rowHolds {texts : List String} {groups : List (List Item)} (each : List.Forall₂ Holds texts groups) :
    Holds (String.join (texts.map (· ++ "\n"))) groups.flatten := by
  induction each with
  | nil => exact ⟨[], rfl, .nil⟩
  | cons first _ ih =>
    obtain ⟨ls, rfl, reads⟩ := first
    obtain ⟨rest, same, later⟩ := ih
    refine ⟨ls ++ Line.blank :: rest, ?_, reads.append later.blank⟩
    rw [List.map_cons, String.join_cons, same]
    simp [render, Line.chars, Line.blank, String.append_assoc]

theorem rowRead {m : Model} (front : List (List Item)) (nameless : Nameless front) (distinct : DistinctNames m)
    {texts known : List String} (holds : List.Forall₂ Holds known (front ++ itemGroups m))
    (perm : texts.Perm known) : read (String.join (texts.map (· ++ "\n"))) = .ok (outlineOf m) := by
  obtain ⟨groups, each, shuffled⟩ := List.perm_comp_forall₂ perm holds
  obtain ⟨ls, same, reads⟩ := rowHolds each
  rw [same, readRendered reads, outlineShuffled nameless shuffled distinct]

section Row
variable {m : Model} {o : Options} (legal : Legal m) (culture : Plain o.culture) (schema : Plain o.defaultSchema)
  {texts : List String}
include legal culture schema

theorem shuffledRead (perm : texts.Perm ((files m o).map (·.contents))) :
    read (String.join (texts.map (· ++ "\n"))) = .ok (outlineOf m) :=
  rowRead [[.other]] (by simp [Nameless]) legal.distinct (filesHold legal culture schema) perm

theorem restShuffledRead (perm : texts.Perm ((files m o).tail.map (·.contents))) :
    read (String.join (texts.map (· ++ "\n"))) = .ok (outlineOf m) := by
  have holds := filesHold legal culture schema
  obtain ⟨_, rest⟩ := List.forall₂_cons.mp holds
  exact rowRead [] (by simp [Nameless]) legal.distinct rest perm

end Row

end Tabular.Definition

import Mathlib.Data.List.Basic
import Mathlib.Data.List.Perm.Basic
import Tabular.Definition.Reading

/-! The order of the references. An item stands where its name is first referred to, names without a reference
come last, and items of one place keep their order; this leaves one list only. So a list may be sorted by some of
the references before it is sorted by all of them, and sorting it again changes nothing. -/
namespace Tabular.Definition

section Sorted
variable {α : Type}

theorem mergeSortFilter {le : α → α → Bool} (trans : ∀ x y z, le x y → le y z → le x z)
    (total : ∀ x y, le x y || le y x) {p : α → Bool} {xs : List α}
    (inOrder : (xs.filter p).Pairwise fun x y => le x y) : (xs.mergeSort le).filter p = xs.filter p := by
  have kept : (xs.filter p).Sublist (xs.mergeSort le) :=
    List.sublist_mergeSort trans total inOrder List.filter_sublist
  have inside : (xs.filter p).Sublist ((xs.mergeSort le).filter p) := by
    simpa only [List.filter_filter, Bool.and_self] using kept.filter p
  have size : ((xs.mergeSort le).filter p).length = (xs.filter p).length :=
    ((List.mergeSort_perm xs le).filter p).length_eq
  exact (inside.eq_of_length size.symm).symm

theorem gatherRising {key : α → Nat} {bound : Nat} {xs : List α} (below : ∀ x ∈ xs, key x < bound)
    (rising : xs.Pairwise fun x y => key x ≤ key y) :
    ((List.range bound).flatMap fun i => xs.filter fun x => key x == i) = xs := by
  induction xs with
  | nil => simp
  | cons x xs ih =>
    obtain ⟨inside, rest⟩ := List.forall_mem_cons.mp below
    obtain ⟨least, tail⟩ := List.pairwise_cons.mp rising
    obtain ⟨more, rfl⟩ : ∃ more, bound = key x + (1 + more) := ⟨bound - key x - 1, by omega⟩
    have again := ih rest tail
    rw [List.range_add, List.range_add, List.map_append, List.flatMap_append, List.flatMap_append] at again ⊢
    have none (ys : List α) (high : ∀ y ∈ ys, key x ≤ key y) :
        ((List.range (key x)).flatMap fun i => ys.filter fun y => key y == i) = [] := by
      refine List.flatMap_eq_nil_iff.mpr fun i low => List.filter_eq_nil_iff.mpr fun y mem => ?_
      have := high y mem
      have := List.mem_range.mp low
      simp only [beq_iff_eq]
      omega
    have later (i : Nat) (mem : i ∈ ((List.range more).map (1 + ·)).map (key x + ·)) :
        (x :: xs).filter (fun y => key y == i) = xs.filter fun y => key y == i := by
      simp only [List.mem_map] at mem
      obtain ⟨_, ⟨j, _, rfl⟩, rfl⟩ := mem
      exact List.filter_cons_of_neg (by simp)
    rw [none xs least, List.nil_append] at again
    rw [none _ (List.forall_mem_cons.mpr ⟨Nat.le_refl _, least⟩), List.nil_append,
      List.flatMap_congr later]
    simpa using again

end Sorted

section Refs
variable {α : Type} (name : α → String) (refs : List String)

def inRefOrder (x y : α) : Bool := refs.idxOf (name x) ≤ refs.idxOf (name y)

theorem inRefOrderTrans (x y z : α) : inRefOrder name refs x y → inRefOrder name refs y z →
    inRefOrder name refs x z := by
  simpa only [inRefOrder, decide_eq_true_eq] using Nat.le_trans

theorem inRefOrderTotal (x y : α) : inRefOrder name refs x y || inRefOrder name refs y x := by
  simpa [inRefOrder] using Nat.le_total _ _

theorem onePlaceKept {p : α → Bool}
    (same : ∀ x y, p x = true → p y = true → refs.idxOf (name x) = refs.idxOf (name y)) (xs : List α) :
    (xs.mergeSort (inRefOrder name refs)).filter p = xs.filter p := by
  refine mergeSortFilter (inRefOrderTrans name refs) (inRefOrderTotal name refs) ?_
  refine List.pairwise_of_forall_mem_list fun x left y right => ?_
  have places := same x y (List.mem_filter.mp left).2 (List.mem_filter.mp right).2
  simp [inRefOrder, places]

theorem sortByRefsInOrder {items : List α}
    (rising : items.Pairwise fun x y => refs.idxOf (name x) ≤ refs.idxOf (name y)) :
    sortByRefs name refs items = items :=
  gatherRising (fun _ _ => Nat.lt_succ_of_le List.idxOf_le_length) rising

theorem mergeSortRising (items : List α) : (items.mergeSort (inRefOrder name refs)).Pairwise
    fun x y => refs.idxOf (name x) ≤ refs.idxOf (name y) :=
  (List.pairwise_mergeSort (inRefOrderTrans name refs) (inRefOrderTotal name refs) items).imp
    fun le => by simpa [inRefOrder] using le

theorem sortByRefsStable (items : List α) :
    sortByRefs name refs items = items.mergeSort (inRefOrder name refs) := by
  rw [← sortByRefsInOrder name refs (mergeSortRising name refs items)]
  refine List.flatMap_congr fun i _ => (onePlaceKept name refs (fun x y atX atY => ?_) items).symm
  exact (beq_iff_eq.mp atX).trans (beq_iff_eq.mp atY).symm

theorem sortByRefsPermutes (items : List α) : (sortByRefs name refs items).Perm items := by
  rw [sortByRefsStable]
  exact List.mergeSort_perm items _

theorem sortByRefsRising (items : List α) :
    (sortByRefs name refs items).Pairwise fun x y => refs.idxOf (name x) ≤ refs.idxOf (name y) := by
  rw [sortByRefsStable]
  exact mergeSortRising name refs items

theorem sortByRefsCongr {xs ys : List α}
    (named : ∀ n, xs.filter (fun x => name x == n) = ys.filter fun x => name x == n)
    (others : xs.filter (fun x => name x ∉ refs) = ys.filter fun x => name x ∉ refs) :
    sortByRefs name refs xs = sortByRefs name refs ys := by
  refine List.flatMap_congr fun i _ => ?_
  -- What has its place at `i` has one name, or else no reference.
  have narrow {p : α → Bool} (all : ∀ x, refs.idxOf (name x) = i → p x = true) (zs : List α) :
      zs.filter (fun x => refs.idxOf (name x) == i) =
        (zs.filter p).filter fun x => refs.idxOf (name x) == i := by
    rw [List.filter_filter]
    refine List.filter_congr fun x _ => ?_
    by_cases place : refs.idxOf (name x) = i
    · simp [place, all x place]
    · simp [place]
  by_cases inside : i < refs.length
  · have one (x : α) (place : refs.idxOf (name x) = i) : (name x == refs[i]) = true := by
      subst place
      simp
    rw [narrow one xs, narrow one ys, named]
  · have absent (x : α) (place : refs.idxOf (name x) = i) : decide (name x ∉ refs) = true := by
      rw [decide_eq_true_eq, ← List.idxOf_lt_length_iff, place]
      exact inside
    rw [narrow absent xs, narrow absent ys, others]

theorem placesAgree {a b : String} {left right : List String}
    (same : (left ++ right).idxOf a = (left ++ right).idxOf b) :
    left.idxOf a = left.idxOf b ∧ right.idxOf a = right.idxOf b := by
  by_cases referred : a ∈ left ++ right
  · rw [(List.idxOf_inj referred).mp same]
    exact ⟨rfl, rfl⟩
  · have absent : b ∉ left ++ right := by
      rw [List.idxOf_eq_length referred] at same
      exact fun mem => absurd (List.idxOf_lt_length_of_mem mem) (by omega)
    simp only [List.mem_append, not_or] at referred absent
    exact ⟨by rw [List.idxOf_eq_length referred.1, List.idxOf_eq_length absent.1],
      by rw [List.idxOf_eq_length referred.2, List.idxOf_eq_length absent.2]⟩

theorem sortedTwice {left right : List String} (xs ys : List α) :
    sortByRefs name (left ++ right) (sortByRefs name left xs ++ sortByRefs name right ys) =
      sortByRefs name (left ++ right) (xs ++ ys) := by
  refine List.flatMap_congr fun i _ => ?_
  have one (x y : α) (atX : ((left ++ right).idxOf (name x) == i) = true)
      (atY : ((left ++ right).idxOf (name y) == i) = true) :=
    placesAgree ((beq_iff_eq.mp atX).trans (beq_iff_eq.mp atY).symm)
  rw [List.filter_append, List.filter_append, sortByRefsStable, sortByRefsStable,
    onePlaceKept name left fun x y atX atY => (one x y atX atY).1,
    onePlaceKept name right fun x y atX atY => (one x y atX atY).2]

theorem sortByRefsPerm {xs ys : List α} (perm : xs.Perm ys) (distinct : (ys.map name).Nodup)
    (referred : ∀ y ∈ ys, name y ∈ refs) : sortByRefs name refs xs = sortByRefs name refs ys := by
  unfold sortByRefs
  refine List.flatMap_congr fun i _ => ?_
  have single : (ys.filter fun y => refs.idxOf (name y) == i).Pairwise fun _ _ => False := by
    have apart : (ys.filter fun y => refs.idxOf (name y) == i).Pairwise fun a b => name a ≠ name b :=
      (List.pairwise_map.mp distinct).sublist List.filter_sublist
    refine List.Pairwise.imp_of_mem (fun {a b} left right differ => ?_) apart
    obtain ⟨memA, atA⟩ := List.mem_filter.mp left
    obtain ⟨_, atB⟩ := List.mem_filter.mp right
    rw [beq_iff_eq] at atA atB
    exact differ ((List.idxOf_inj (referred a memA)).mp (atA.trans atB.symm))
  have shuffled := perm.filter fun y => refs.idxOf (name y) == i
  exact shuffled.eq_of_pairwise (fun _ _ _ _ never => never.elim)
    ((shuffled.pairwise_iff (fun never => never.elim)).mpr single) single

/- What the order of the references asks of a list. Items that are referred to come first, by the first reference
to their names, and the others stand behind them as they were; items of one name do not change places. One list
alone meets this. -/
structure OrderedByRefs (items sorted : List α) : Prop where
  permuted : sorted.Perm items
  parted : sorted = sorted.filter (fun x => name x ∈ refs) ++ items.filter fun x => name x ∉ refs
  rising : (sorted.filter fun x => name x ∈ refs).Pairwise
    fun x y => refs.idxOf (name x) ≤ refs.idxOf (name y)
  stable : ∀ n, sorted.filter (fun x => name x == n) = items.filter fun x => name x == n

theorem sortByRefsParted (items : List α) : sortByRefs name refs items =
    (sortByRefs name refs items).filter (fun x => name x ∈ refs) ++ items.filter fun x => name x ∉ refs := by
  have last : items.filter (fun x => refs.idxOf (name x) == refs.length) =
      items.filter fun x => name x ∉ refs :=
    List.filter_congr fun x _ => by
      rw [Bool.eq_iff_iff, beq_iff_eq, decide_eq_true_eq, List.idxOf_eq_length_iff]
  obtain ⟨front, split, referred⟩ : ∃ front, sortByRefs name refs items =
      front ++ items.filter (fun x => name x ∉ refs) ∧ ∀ x ∈ front, name x ∈ refs := by
    refine ⟨(List.range refs.length).flatMap fun i => items.filter fun x => refs.idxOf (name x) == i, ?_, ?_⟩
    · rw [sortByRefs, List.range_succ, List.flatMap_append, List.flatMap_singleton, last]
    · intro x member
      obtain ⟨i, below, inside⟩ := List.mem_flatMap.mp member
      have place : refs.idxOf (name x) = i := beq_iff_eq.mp (List.mem_filter.mp inside).2
      rw [← List.idxOf_lt_length_iff, place]
      exact List.mem_range.mp below
  have kept : (sortByRefs name refs items).filter (fun x => name x ∈ refs) = front := by
    rw [split, List.filter_append, List.filter_eq_self.mpr (by simpa using referred),
      List.filter_eq_nil_iff.mpr (by simp), List.append_nil]
  rw [kept, ← split]

theorem sortByRefsOrdered (items : List α) : OrderedByRefs name refs items (sortByRefs name refs items) where
  permuted := sortByRefsPermutes name refs items
  parted := sortByRefsParted name refs items
  rising := (sortByRefsRising name refs items).filter _
  stable n := by
    rw [sortByRefsStable]
    refine onePlaceKept name refs (fun x y left right => ?_) items
    rw [beq_iff_eq.mp left, beq_iff_eq.mp right]

variable {name refs} {items sorted : List α}

theorem OrderedByRefs.refsAscend (ordered : OrderedByRefs name refs items sorted) :
    sorted.Pairwise fun x y => refs.idxOf (name x) ≤ refs.idxOf (name y) := by
  have behind (x y : α) (mem : y ∈ items.filter fun x => name x ∉ refs) :
      refs.idxOf (name x) ≤ refs.idxOf (name y) := by
    have absent : name y ∉ refs := by simpa using (List.mem_filter.mp mem).2
    rw [List.idxOf_of_notMem absent]
    exact List.idxOf_le_length
  rw [ordered.parted]
  exact List.pairwise_append.mpr ⟨ordered.rising,
    List.pairwise_of_forall_mem_list fun x _ y mem => behind x y mem, fun x _ y mem => behind x y mem⟩

theorem OrderedByRefs.unique (ordered : OrderedByRefs name refs items sorted) :
    sorted = sortByRefs name refs items := by
  have others : sorted.filter (fun x => name x ∉ refs) = items.filter fun x => name x ∉ refs := by
    calc sorted.filter (fun x => name x ∉ refs)
      _ = (sorted.filter (fun x => name x ∈ refs) ++ items.filter fun x => name x ∉ refs).filter
          fun x => name x ∉ refs := congrArg _ ordered.parted
      _ = items.filter fun x => name x ∉ refs := by simp [List.filter_append, List.filter_filter]
  calc sorted
    _ = sortByRefs name refs sorted := (sortByRefsInOrder name refs ordered.refsAscend).symm
    _ = sortByRefs name refs items := sortByRefsCongr name refs ordered.stable others

end Refs

theorem refOrderExact {α : Type} (name : α → String) (refs : List String) (items : List α) :
    (∀ sorted, OrderedByRefs name refs items sorted ↔ sorted = sortByRefs name refs items) ∧
    sortByRefs name refs (sortByRefs name refs items) = sortByRefs name refs items ∧
    ((items.map name).Nodup → (∀ x ∈ items, name x ∈ refs) →
      ∀ other, other.Perm items → sortByRefs name refs other = sortByRefs name refs items) := by
  refine ⟨fun sorted => ⟨fun ordered => ordered.unique, ?_⟩, ?_, fun distinct referred other perm => ?_⟩
  · rintro rfl
    exact sortByRefsOrdered name refs items
  · exact sortByRefsInOrder name refs (sortByRefsRising name refs items)
  · exact sortByRefsPerm name refs perm distinct referred

def retoldRefs : List String := ["Stock", "Nowhere", "Sales", "Stock", "Dates"]

def retoldTables : List TableOutline :=
  [{ name := "Dates", mode := some .cached }, { name := "Sales" }, { name := "Stock", columns := [⟨"Key", none⟩] }]

theorem retoldExact : (retoldTables.map (·.name)).Nodup ∧ (∀ t ∈ retoldTables, t.name ∈ retoldRefs) ∧
    retoldTables.reverse.Perm retoldTables ∧
    sortByRefs (·.name) retoldRefs retoldTables.reverse = sortByRefs (·.name) retoldRefs retoldTables ∧
    (sortByRefs (·.name) retoldRefs retoldTables).map (·.name) = ["Stock", "Sales", "Dates"] := by
  have distinct : (retoldTables.map (·.name)).Nodup := by decide
  have referred : ∀ t ∈ retoldTables, t.name ∈ retoldRefs := by decide
  have perm := retoldTables.reverse_perm
  exact ⟨distinct, referred, perm,
    (refOrderExact (·.name) retoldRefs retoldTables).2.2 distinct referred _ perm, by decide⟩

example : sortByRefs Prod.fst retoldRefs
      [("Parts", 1), ("Sales", 2), ("Stock", 3), ("Depot", 4), ("Sales", 5), ("Parts", 6), ("Stock", 7)] =
    [("Stock", 3), ("Stock", 7), ("Sales", 2), ("Sales", 5), ("Parts", 1), ("Depot", 4), ("Parts", 6)] := by
  decide

end Tabular.Definition

import FileSearch.Order
import FileSearch.Proofs.Order.Stability
import FileSearch.Proofs.Time.Order

set_option autoImplicit false

namespace FileSearch

open Std (OrientedCmp TransCmp TransOrd)

theorem transCmp_on {α β : Type} (cmp : β → β → Ordering) [TransCmp cmp] (key : α → β) :
    TransCmp fun left right => cmp (key left) (key right) where
  eq_swap := OrientedCmp.eq_swap
  isLE_trans := TransCmp.isLE_trans

section

variable {α : Type} [Ord α] [TransOrd α]

theorem compareMissingLast_swap (ascending : Bool) (left right : Option α) :
    compareMissingLast ascending left right = (compareMissingLast ascending right left).swap := by
  have swap (first second : α) : compare first second = (compare second first).swap :=
    OrientedCmp.eq_swap
  cases left <;> cases right <;> cases ascending <;> first | rfl | exact swap _ _

instance (ascending : Bool) : TransCmp (compareMissingLast (α := α) ascending) where
  eq_swap := compareMissingLast_swap ascending _ _
  isLE_trans := by
    intro first middle last early late
    cases first <;> cases middle <;> cases last <;> cases ascending <;>
      simp only [compareMissingLast, Bool.false_eq_true, if_false, if_true] at early late ⊢ <;>
      first
        | rfl
        | contradiction
        | exact TransCmp.isLE_trans early late
        | exact TransCmp.isLE_trans late early

end

theorem compareMissingFirst_eq : compareMissingFirst = Ord.compare (α := Option String) := by
  funext left right
  cases left <;> cases right <;> rfl

namespace Order

theorem compareKeys_trans (order : Order) : TransCmp order.compareKeys := by
  obtain ⟨attr, ascending⟩ := order
  cases attr <;> exact transCmp_on (compareMissingLast ascending) _

theorem compare_trans (order : Order) : TransCmp order.compare := by
  have keys := order.compareKeys_trans
  have paths : TransCmp fun left right : Attributes =>
      compareMissingFirst (left.text .path) (right.text .path) := by
    rw [compareMissingFirst_eq]
    exact transCmp_on Ord.compare fun file : Attributes => file.text .path
  exact inferInstanceAs (TransCmp (compareLex order.compareKeys _))

def MayPrecede {α : Type} (order : Order) (attributes : α → Attributes) (left right : α) : Prop :=
  (order.compare (attributes left) (attributes right)).isLE = true

-- The same files, in order, and those that agree as they stood before: whatever part of them was in
-- order already still is a part.
structure StablySorts {α : Type} (order : Order) (attributes : α → Attributes)
    (files sorted : List α) : Prop where
  perm : sorted.Perm files
  ordered : sorted.Pairwise (order.MayPrecede attributes)
  stable : ∀ part : List α, part.Pairwise (order.MayPrecede attributes) → part.Sublist files →
    part.Sublist sorted

section

variable {α : Type} (order : Order) (attributes : α → Attributes)

variable {order attributes} in
theorem mayPrecede_trans {first middle last : α}
    (early : order.MayPrecede attributes first middle)
    (late : order.MayPrecede attributes middle last) :
    order.MayPrecede attributes first last :=
  have := order.compare_trans
  TransCmp.isLE_trans early late

theorem mayPrecede_total (left right : α) :
    order.MayPrecede attributes left right ∨ order.MayPrecede attributes right left := by
  have trans := order.compare_trans
  have swap : order.compare (attributes right) (attributes left) =
      (order.compare (attributes left) (attributes right)).swap := OrientedCmp.eq_swap
  rw [MayPrecede, MayPrecede, swap]
  cases order.compare (attributes left) (attributes right) <;> simp

theorem sort_stablySorts (files : List α) :
    order.StablySorts attributes files (order.sort attributes files) := by
  have chain (first middle last : α) :
      order.MayPrecede attributes first middle → order.MayPrecede attributes middle last →
        order.MayPrecede attributes first last := mayPrecede_trans
  have total (left right : α) :
      ((order.compare (attributes left) (attributes right)).isLE ||
        (order.compare (attributes right) (attributes left)).isLE) = true := by
    simpa [MayPrecede] using order.mayPrecede_total attributes left right
  exact ⟨List.mergeSort_perm files _, List.pairwise_mergeSort chain total files,
    fun part ordered within => List.sublist_mergeSort chain total ordered within⟩

instance : DecidableRel (order.MayPrecede attributes) := fun _ _ =>
  inferInstanceAs (Decidable (_ = true))

theorem ties_self (file : α) : Ties (order.MayPrecede attributes) file file :=
  and_self_iff.mpr (or_self_iff.mp (order.mayPrecede_total attributes file file))

variable {order attributes} {files sorted : List α}

theorem StablySorts.ties_eq (stably : order.StablySorts attributes files sorted) (file : α) :
    sorted.filter (Ties (order.MayPrecede attributes) file) =
      files.filter (Ties (order.MayPrecede attributes) file) :=
  filter_ties_eq (fun _ _ _ => mayPrecede_trans) stably.perm stably.stable file

theorem StablySorts.eq_sort (stably : order.StablySorts attributes files sorted) :
    sorted = order.sort attributes files := by
  have sort := order.sort_stablySorts attributes files
  exact eq_of_ties_eq (order.ties_self attributes) stably.ordered sort.ordered fun file =>
    (stably.ties_eq file).trans (sort.ties_eq file).symm

theorem StablySorts.append {later whole : List α} (stably : order.StablySorts attributes files sorted)
    (stably' : order.StablySorts attributes (sorted ++ later) whole) :
    order.StablySorts attributes (files ++ later) whole where
  perm := stably'.perm.trans (stably.perm.append_right later)
  ordered := stably'.ordered
  stable part ordered within := by
    obtain ⟨early, late, rfl, before, behind⟩ := List.sublist_append_iff.mp within
    have early := stably.stable early (List.pairwise_append.mp ordered).1 before
    exact stably'.stable _ ordered (early.append behind)

variable (order attributes)

theorem sort_sort_append (early late : List α) :
    order.sort attributes (order.sort attributes early ++ late) =
      order.sort attributes (early ++ late) :=
  ((order.sort_stablySorts attributes early).append (order.sort_stablySorts attributes _)).eq_sort

theorem sort_sublist_append (early late : List α) :
    (order.sort attributes early).Sublist (order.sort attributes (early ++ late)) := by
  rw [← sort_sort_append]
  exact (order.sort_stablySorts attributes _).stable _
    (order.sort_stablySorts attributes early).ordered (List.sublist_append_left _ _)

variable {order attributes}

theorem path_eq_of_ties {left right : α} (tied : Ties (order.MayPrecede attributes) left right) :
    (attributes left).text .path = (attributes right).text .path := by
  have trans := order.compare_trans
  have equal : order.compare (attributes left) (attributes right) = .eq :=
    OrientedCmp.isLE_antisymm tied.1 tied.2
  rw [compare, Ordering.then_eq_eq, compareMissingFirst_eq] at equal
  exact Std.LawfulEqCmp.eq_of_compare equal.2

theorem sort_eq_of_perm {listed : List α}
    (apart : files.Pairwise fun left right =>
      (attributes left).text .path ≠ (attributes right).text .path)
    (perm : listed.Perm files) : order.sort attributes listed = order.sort attributes files := by
  have sort := order.sort_stablySorts attributes files
  have sort' := order.sort_stablySorts attributes listed
  refine List.Perm.eq_of_pairwise ?_ sort'.ordered sort.ordered
    (sort'.perm.trans (perm.trans sort.perm.symm))
  intro left right member member' early late
  have differ : Std.Symm fun left right : α =>
      (attributes left).text .path ≠ (attributes right).text .path := ⟨fun _ _ => Ne.symm⟩
  by_contra other
  exact apart.forall (perm.subset (sort'.perm.subset member)) (sort.perm.subset member')
    other (path_eq_of_ties ⟨early, late⟩)

end

end Order

end FileSearch

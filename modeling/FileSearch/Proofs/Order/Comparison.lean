import FileSearch.Proofs.Order.Sorting

set_option autoImplicit false

namespace FileSearch

open Std (LawfulEqCmp LawfulEqOrd OrientedCmp TransCmp TransOrd)

theorem compareMissingLast_eq_iff {α : Type} [Ord α] [TransOrd α] [LawfulEqOrd α]
    (ascending : Bool) (left right : Option α) :
    compareMissingLast ascending left right = .eq ↔ left = right := by
  cases left with
  | none => cases right <;> simp [compareMissingLast]
  | some first =>
    cases right with
    | none => simp [compareMissingLast]
    | some second =>
      have equal (first second : α) : compare first second = .eq ↔ first = second :=
        LawfulEqCmp.compare_eq_iff_eq
      cases ascending <;> simp [compareMissingLast, equal, eq_comm]

theorem compareMissingLast_present {α : Type} [Ord α] (ascending : Bool) (left right : Option α)
    (present : left.isSome) (missing : right = none) :
    compareMissingLast ascending left right = .lt := by
  obtain ⟨value, rfl⟩ := Option.isSome_iff_exists.mp present
  rw [missing, compareMissingLast]

namespace Order

-- What the order looks at first: the attribute as it is read, a text in lower case.
def key? (order : Order) (file : Attributes) : Option AttributeValue :=
  match order.attr with
  | .size => (file.bytes .size).map .bytes
  | .createdAt => (file.time .createdAt).map .time
  | .modifiedAt => (file.time .modifiedAt).map .time
  | attr => ((file.text attr).map Text.lowercase).map .text

variable (order : Order)

theorem compareKeys_eq_iff (left right : Attributes) :
    order.compareKeys left right = .eq ↔ order.key? left = order.key? right := by
  obtain ⟨attr, ascending⟩ := order
  have texts : Function.Injective AttributeValue.text := fun _ _ => AttributeValue.text.inj
  have numbers : Function.Injective AttributeValue.bytes := fun _ _ => AttributeValue.bytes.inj
  have moments : Function.Injective AttributeValue.time := fun _ _ => AttributeValue.time.inj
  cases attr with
  | size =>
    exact (compareMissingLast_eq_iff ascending _ _).trans (Option.map_injective numbers).eq_iff.symm
  | createdAt | modifiedAt =>
    exact (compareMissingLast_eq_iff ascending _ _).trans (Option.map_injective moments).eq_iff.symm
  | _ =>
    exact (compareMissingLast_eq_iff ascending _ _).trans (Option.map_injective texts).eq_iff.symm

theorem compareKeys_present (present missing : Attributes) (has : (order.key? present).isSome)
    (lacks : order.key? missing = none) : order.compareKeys present missing = .lt := by
  obtain ⟨attr, ascending⟩ := order
  cases attr <;>
    exact compareMissingLast_present ascending _ _ (by simpa [key?] using has)
      (by simpa [key?] using lacks)

theorem compare_eq_iff (left right : Attributes) :
    order.compare left right = .eq ↔
      order.key? left = order.key? right ∧ left.text .path = right.text .path := by
  rw [compare, Ordering.then_eq_eq, compareKeys_eq_iff, compareMissingFirst_eq,
    LawfulEqCmp.compare_eq_iff_eq]

theorem compare_present (present missing : Attributes) (has : (order.key? present).isSome)
    (lacks : order.key? missing = none) : order.compare present missing = .lt := by
  rw [compare, order.compareKeys_present present missing has lacks]
  rfl

section Strict

variable {α : Type} (attributes : α → Attributes)

def Precedes (left right : α) : Prop :=
  order.compare (attributes left) (attributes right) = .lt

instance : DecidableRel (order.Precedes attributes) := fun _ _ =>
  inferInstanceAs (Decidable (_ = _))

theorem precedes_asymm (left right : α) (before : order.Precedes attributes left right) :
    ¬ order.Precedes attributes right left :=
  have := order.compare_trans
  OrientedCmp.not_lt_of_lt before

theorem precedes_trans (first middle last : α) (early : order.Precedes attributes first middle)
    (late : order.Precedes attributes middle last) : order.Precedes attributes first last :=
  have := order.compare_trans
  TransCmp.lt_trans early late

theorem sort_precedes {files : List α} (apart : files.Pairwise fun left right =>
      (attributes left).text .path ≠ (attributes right).text .path) :
    (order.sort attributes files).Pairwise (order.Precedes attributes) := by
  have sorts := order.sort_stablySorts attributes files
  have apart := (sorts.perm.pairwise_iff fun differ => Ne.symm differ).mpr apart
  refine (sorts.ordered.and apart).imp ?_
  rintro left right ⟨before, differ⟩
  rcases Ordering.isLE_iff_eq_lt_or_eq_eq.mp before with less | tied
  · exact less
  · exact absurd ((order.compare_eq_iff _ _).mp tied).2 differ

end Strict

/-- Files can be compared in either sense and along chains, and only files tie that agree in the
attribute and in the path. Those that lack the attribute come last. -/
theorem compare_total_preorder :
    (∀ left right, order.compare right left = (order.compare left right).swap) ∧
      (∀ first middle last, order.compare first middle ≠ .gt → order.compare middle last ≠ .gt →
        order.compare first last ≠ .gt) ∧
      (∀ left right, order.compare left right = .eq ↔
        order.key? left = order.key? right ∧ left.text .path = right.text .path) ∧
      ∀ present missing, (order.key? present).isSome → order.key? missing = none →
        order.compare present missing = .lt := by
  have trans := order.compare_trans
  refine ⟨fun left right => OrientedCmp.eq_swap, ?_, order.compare_eq_iff, order.compare_present⟩
  intro first middle last early late
  have early := Ordering.ne_gt_iff_isLE.mp early
  have late := Ordering.ne_gt_iff_isLE.mp late
  exact Ordering.ne_gt_iff_isLE.mpr (TransCmp.isLE_trans early late)

-- A file at a path, of a size that may be unknown.
def sized (path : String) (size? : Option UInt64) : Attributes where
  text attr := if attr = .path then some path else none
  bytes attr := if attr = .size then size? else none
  time _ := none

theorem unknown_size_comes_last :
    let order : Order := ⟨.size, false⟩
    let large := sized "/b" (some 5)
    let small := sized "/c" (some 3)
    let unknown := sized "/a" none
    order.compare large unknown ≠ .gt ∧ order.compare small unknown = .lt := by
  intro order large small unknown
  obtain ⟨-, chain, -, last⟩ := order.compare_total_preorder
  exact ⟨chain large small unknown (by decide) (by decide), last small unknown rfl rfl⟩

end Order

end FileSearch

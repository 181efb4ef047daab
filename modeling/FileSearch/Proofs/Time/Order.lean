import FileSearch.Time.Instant
import Mathlib.Data.Int.Order.Basic

set_option autoImplicit false

namespace FileSearch.Instant

instance : LE Instant :=
  ⟨fun left right => left.second < right.second ∨
    left.second = right.second ∧ left.nano ≤ right.nano⟩

theorem le_iff (left right : Instant) :
    left ≤ right ↔ left.second < right.second ∨
      left.second = right.second ∧ left.nano ≤ right.nano := Iff.rfl

instance (left right : Instant) : Decidable (left ≤ right) :=
  decidable_of_iff _ (le_iff left right).symm

protected theorem le_trans (first middle last : Instant) (early : first ≤ middle)
    (late : middle ≤ last) : first ≤ last := by
  rw [le_iff] at early late ⊢
  omega

theorem compare_eq_lex :
    (Ord.compare : Instant → Instant → Ordering) =
      compareLex (compareOn Instant.second) (compareOn Instant.nano) := rfl

instance : Std.TransOrd Instant :=
  inferInstanceAs (Std.TransCmp (compareLex (compareOn Instant.second) (compareOn Instant.nano)))

theorem isLE_compare (left right : Instant) :
    (Ord.compare left right).isLE = true ↔ left ≤ right := by
  rw [compare_eq_lex, le_iff]
  rcases lt_trichotomy left.second right.second with below | same | above
  · simp [compareLex, compareOn, compare_lt_iff_lt.mpr below, below]
  · simp [compareLex, compareOn, same, Std.isLE_compare]
  · have behind : ¬ (left.second < right.second ∨
        left.second = right.second ∧ left.nano ≤ right.nano) := by omega
    simp [compareLex, compareOn, compare_gt_iff_gt.mpr above, behind]

instance : Std.LawfulEqOrd Instant where
  compare_self := Std.ReflCmp.compare_self
  eq_of_compare {left right} equal := by
    obtain ⟨second, nano, bounded⟩ := left
    obtain ⟨second', nano', bounded'⟩ := right
    rw [compare_eq_lex, compareLex, Ordering.then_eq_eq] at equal
    obtain rfl : second = second' := Std.LawfulEqOrd.eq_of_compare equal.1
    obtain rfl : nano = nano' := Std.LawfulEqOrd.eq_of_compare equal.2
    rfl

instance : Std.LawfulOrderOrd Instant where
  isLE_compare := isLE_compare
  isGE_compare left right := by
    rw [Std.OrientedCmp.isGE_eq_isLE]
    exact isLE_compare right left

end FileSearch.Instant

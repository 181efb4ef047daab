import FileSearch.Path.Basic
import Mathlib.Order.Defs.LinearOrder

set_option autoImplicit false

namespace FileSearch

open Std (OrientedCmp TransCmp LawfulEqCmp ReflCmp)

namespace Component

def label : Component → String
  | .named name => name
  | _ => ""

theorem compare_eq :
    compare = compareLex (compareOn rank) (compareOn label) := by
  funext left right
  cases left <;> cases right <;> rfl

theorem eq_of_rank {left right : Component} (rank : left.rank = right.rank)
    (label : left.label = right.label) : left = right := by
  cases left <;> cases right <;> simp_all [Component.rank, Component.label]

instance : TransCmp compare := by
  rw [compare_eq]
  infer_instance

instance : LawfulEqCmp compare where
  compare_self := ReflCmp.compare_self
  eq_of_compare {left right} equal := by
    rw [compare_eq, compareLex, Ordering.then_eq_eq] at equal
    exact eq_of_rank (Std.LawfulEqOrd.eq_of_compare equal.1) (Std.LawfulEqOrd.eq_of_compare equal.2)

end Component

namespace Path

theorem compareComponents_eq : compareComponents = List.compareLex Component.compare := by
  funext left right
  induction left generalizing right with
  | nil => cases right <;> rfl
  | cons a left ih =>
    cases right with
    | nil => rfl
    | cons b right => rw [compareComponents, List.compareLex_cons_cons, ih]

instance : TransCmp compareComponents := by
  rw [compareComponents_eq]
  infer_instance

instance : LawfulEqCmp compareComponents := by
  rw [compareComponents_eq]
  infer_instance

instance : TransCmp compare where
  eq_swap {left right} :=
    @OrientedCmp.eq_swap _ compareComponents _ left.components right.components
  isLE_trans {first middle last} :=
    @TransCmp.isLE_trans _ compareComponents _ first.components middle.components last.components

theorem sameAs_iff (left right : Path) :
    left.sameAs right = true ↔ left.components = right.components := by
  simp [sameAs]

theorem compare_eq_iff (left right : Path) : left.compare right = .eq ↔ left.sameAs right = true := by
  rw [sameAs_iff]
  constructor
  · exact @LawfulEqCmp.eq_of_compare _ compareComponents _ left.components right.components
  · intro same
    rw [compare, same]
    exact ReflCmp.compare_self

theorem compareComponents_append (outer more : List Component) :
    (compareComponents outer (outer ++ more)).isLE = true := by
  induction outer with
  | nil => cases more <;> rfl
  | cons component rest ih =>
    have equal : component.compare component = .eq := ReflCmp.compare_self
    rw [List.cons_append, compareComponents, equal]
    exact ih

theorem compare_of_longer {outer inner : Path} (below : outer.components <+: inner.components)
    (apart : outer.sameAs inner = false) : outer.compare inner = .lt := by
  obtain ⟨more, split⟩ := below
  have early := compareComponents_append outer.components more
  rw [split] at early
  cases order : outer.compare inner with
  | lt => rfl
  | eq => simp [(compare_eq_iff outer inner).mp order] at apart
  | gt => exact absurd early (by rw [compare] at order; simp [order])

end Path

end FileSearch

import Mathlib.Data.List.Pairwise

set_option autoImplicit false

namespace FileSearch

variable {α : Type} (r : α → α → Prop)

def Ties (left right : α) : Prop :=
  r left right ∧ r right left

instance [DecidableRel r] (left : α) : DecidablePred (Ties r left) := fun _ =>
  inferInstanceAs (Decidable (_ ∧ _))

variable {r} [DecidableRel r]

theorem filter_ties_eq {files sorted : List α}
    (chain : ∀ first middle last, r first middle → r middle last → r first last)
    (perm : sorted.Perm files)
    (stable : ∀ part : List α, part.Pairwise r → part.Sublist files → part.Sublist sorted)
    (file : α) : sorted.filter (Ties r file) = files.filter (Ties r file) := by
  have ordered : (files.filter (Ties r file)).Pairwise r := by
    apply List.pairwise_of_forall_mem_list
    intro left tied right tied'
    have left := of_decide_eq_true (List.mem_filter.mp tied).2
    have right := of_decide_eq_true (List.mem_filter.mp tied').2
    exact chain _ _ _ left.2 right.1
  have within := (stable _ ordered List.filter_sublist).filter (Ties r file)
  rw [List.filter_filter, List.filter_congr fun _ _ => Bool.and_self _] at within
  exact (within.eq_of_length (perm.filter _).length_eq.symm).symm

section

variable (ties_self : ∀ file, Ties r file file)

include ties_self

omit [DecidableRel r] in
theorem first_precedes {first file : α} {rest : List α} (ordered : (first :: rest).Pairwise r)
    (member : file ∈ first :: rest) : r first file := by
  cases member with
  | head => exact (ties_self first).1
  | tail _ member => exact (List.pairwise_cons.mp ordered).1 file member

theorem mem_of_ties_eq {left right : List α} {file : α}
    (same : left.filter (Ties r file) = right.filter (Ties r file)) (member : file ∈ left) :
    file ∈ right := by
  have tied : file ∈ left.filter (Ties r file) :=
    List.mem_filter.mpr ⟨member, decide_eq_true (ties_self file)⟩
  exact (List.mem_filter.mp (same ▸ tied)).1

theorem eq_of_ties_eq {left right : List α} (ordered : left.Pairwise r) (ordered' : right.Pairwise r)
    (same : ∀ file, left.filter (Ties r file) = right.filter (Ties r file)) : left = right := by
  induction left generalizing right with
  | nil =>
    cases right with
    | nil => rfl
    | cons first rest => cases mem_of_ties_eq ties_self (same first).symm List.mem_cons_self
  | cons first rest ih =>
    cases right with
    | nil => cases mem_of_ties_eq ties_self (same first) List.mem_cons_self
    | cons first' rest' =>
      -- Each of the two stands in the other list too, so that they tie.
      have member := mem_of_ties_eq ties_self (same first) List.mem_cons_self
      have member' := mem_of_ties_eq ties_self (same first').symm List.mem_cons_self
      have tied : Ties r first first' :=
        ⟨first_precedes ties_self ordered member', first_precedes ties_self ordered' member⟩
      have equal := same first
      rw [List.filter_cons_of_pos (by simpa using ties_self first),
        List.filter_cons_of_pos (by simpa using tied)] at equal
      obtain ⟨rfl, -⟩ := List.cons.inj equal
      rw [ih (List.pairwise_cons.mp ordered).2 (List.pairwise_cons.mp ordered').2]
      intro file
      have whole := same file
      by_cases tie : Ties r file first <;> simpa [tie] using whole

end

end FileSearch

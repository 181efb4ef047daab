import FileSearch.Text.Substring
import Mathlib.Data.List.Infix

set_option autoImplicit false

namespace FileSearch.Text

theorem hasSlice_iff (needle text : List Char) : hasSlice needle text = true ↔ needle <:+: text := by
  induction text with
  | nil => simp [hasSlice]
  | cons c rest ih => simp [hasSlice, ih, List.infix_cons_iff]

variable {α : Type}

theorem prefix_flatten (lists : List (List α)) (needle : List α) (some : needle ≠ [])
    (full : ∀ list ∈ lists, list ≠ []) (found : needle <+: lists.flatten) :
    ∃ block back, lists = block ++ back ∧ needle <+: block.flatten ∧
      block.length ≤ needle.length ∧ ∀ list ∈ block, ∃ x ∈ list, x ∈ needle := by
  induction lists generalizing needle with
  | nil => exact absurd (List.prefix_nil.mp found) some
  | cons list rest ih =>
    obtain ⟨x, list', rfl⟩ := List.exists_cons_of_ne_nil (full list List.mem_cons_self)
    obtain ⟨after, joined⟩ := found
    -- The needle ends within the first list, or goes on in the lists behind it. Each list that it
    -- goes through takes at least one of its elements.
    rcases List.append_eq_append_iff.mp joined with ⟨left, within, -⟩ | ⟨left, beyond, behind⟩
    · obtain ⟨y, needle', rfl⟩ := List.exists_cons_of_ne_nil some
      refine ⟨[(x :: list')], rest, rfl, ?_, by simp, ?_⟩
      · simp [within]
      · simp only [List.mem_singleton, forall_eq]
        exact ⟨y, by simp [within], by simp⟩
    · by_cases empty : left = []
      · refine ⟨[(x :: list')], rest, rfl, by simp [beyond, empty], by simp [beyond, empty], ?_⟩
        simp only [List.mem_singleton, forall_eq]
        exact ⟨x, by simp, by simp [beyond]⟩
      · obtain ⟨block, back, rfl, begins, short, share⟩ := ih left empty
          (fun other member => full other (List.mem_cons_of_mem _ member)) ⟨after, behind.symm⟩
        refine ⟨(x :: list') :: block, back, rfl, ?_, ?_, ?_⟩
        · rw [beyond, List.flatten_cons]
          exact (List.prefix_append_right_inj _).mpr begins
        · simp only [beyond, List.length_cons, List.length_append]
          omega
        · intro other member
          rcases List.mem_cons.mp member with rfl | member
          · exact ⟨x, by simp, by simp [beyond]⟩
          · obtain ⟨z, inside, shared⟩ := share other member
            exact ⟨z, inside, by simp [beyond, shared]⟩

theorem infix_flatten (lists : List (List α)) (needle : List α) (some : needle ≠ [])
    (full : ∀ list ∈ lists, list ≠ []) (found : needle <:+: lists.flatten) :
    ∃ front block back, lists = front ++ block ++ back ∧ needle <:+: block.flatten ∧
      block.length ≤ needle.length ∧ ∀ list ∈ block, ∃ x ∈ list, x ∈ needle := by
  induction lists with
  | nil => exact absurd (List.infix_nil.mp found) some
  | cons list rest ih =>
    have restFull := fun other member => full other (List.mem_cons_of_mem list member)
    obtain ⟨before, after, joined⟩ := found
    rw [List.append_assoc, List.flatten_cons] at joined
    rcases List.append_eq_append_iff.mp joined with ⟨left, split, behind⟩ | ⟨left, -, behind⟩
    · by_cases empty : left = []
      · obtain ⟨front, block, back, rfl, rest'⟩ := ih restFull
          ⟨[], after, by simpa [empty] using behind⟩
        exact ⟨list :: front, block, back, rfl, rest'⟩
      · -- The needle begins within this list, so the rest of the list stands for the whole of it.
        have begun : ∀ other ∈ left :: rest, other ≠ [] := by
          intro other member
          rcases List.mem_cons.mp member with rfl | member
          · exact empty
          · exact restFull other member
        obtain ⟨block, back, split', begins, short, share⟩ :=
          prefix_flatten (left :: rest) needle some begun ⟨after, behind⟩
        cases block with
        | nil => exact absurd (List.prefix_nil.mp begins) some
        | cons first block =>
          rw [List.cons_append, List.cons.injEq] at split'
          obtain ⟨rfl, rfl⟩ := split'
          refine ⟨[], list :: block, back, rfl, ?_, short, ?_⟩
          · rw [List.flatten_cons, split, List.append_assoc]
            exact begins.isInfix.trans (List.suffix_append _ _).isInfix
          · intro other member
            rcases List.mem_cons.mp member with rfl | member
            · obtain ⟨z, inside, shared⟩ := share left List.mem_cons_self
              exact ⟨z, by simp [split, inside], shared⟩
            · exact share other (List.mem_cons_of_mem _ member)
    · obtain ⟨front, block, back, rfl, rest'⟩ :=
        ih restFull ⟨left, after, by rw [List.append_assoc, behind]⟩
      exact ⟨list :: front, block, back, rfl, rest'⟩

end FileSearch.Text

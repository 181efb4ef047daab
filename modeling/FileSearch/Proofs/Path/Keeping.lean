import Mathlib.Data.List.Basic

set_option autoImplicit false

namespace FileSearch

variable {α : Type} (rel : α → α → Bool)

def keepBy (kept : List α) : List α → List α
  | [] => kept
  | item :: rest => keepBy (if kept.any (rel item) then kept else kept ++ [item]) rest

-- The item is in the list, and nothing that it is related to stands before it.
def IsFirstBy (item : α) (items : List α) : Prop :=
  ∃ before after, items = before ++ item :: after ∧ before.any (rel item) = false

theorem isFirstBy_cons (item first : α) (rest : List α) :
    IsFirstBy rel item (first :: rest) ↔
      item = first ∨ (rel item first = false ∧ IsFirstBy rel item rest) := by
  constructor
  · rintro ⟨before, after, split, new⟩
    cases before with
    | nil =>
      cases split
      exact .inl rfl
    | cons earlier before =>
      cases split
      obtain ⟨apart, new⟩ := Bool.or_eq_false_iff.mp new
      exact .inr ⟨apart, before, after, rfl, new⟩
  · rintro (rfl | ⟨apart, before, after, rfl, new⟩)
    · exact ⟨[], rest, rfl, rfl⟩
    · exact ⟨first :: before, after, rfl, Bool.or_eq_false_iff.mpr ⟨apart, new⟩⟩

theorem keepBy_sublist (kept items : List α) :
    ∃ more, more.Sublist items ∧ keepBy rel kept items = kept ++ more := by
  induction items generalizing kept with
  | nil => exact ⟨[], List.Sublist.refl _, (List.append_nil kept).symm⟩
  | cons item rest ih =>
    obtain ⟨more, within, split⟩ := ih (if kept.any (rel item) then kept else kept ++ [item])
    rw [keepBy, split]
    split
    next => exact ⟨more, within.cons item, rfl⟩
    next => exact ⟨item :: more, within.cons_cons item, by simp⟩

-- Nothing in the list is related to something before it.
def ApartBy (items : List α) : Prop :=
  items.Pairwise fun earlier later => rel later earlier = false

theorem apartBy_concat (kept : List α) (item : α) :
    ApartBy rel (kept ++ [item]) ↔ ApartBy rel kept ∧ kept.any (rel item) = false := by
  simp [ApartBy, List.pairwise_append]

theorem keepBy_apart (kept items : List α) (apart : ApartBy rel kept) :
    ApartBy rel (keepBy rel kept items) := by
  induction items generalizing kept with
  | nil => exact apart
  | cons item rest ih =>
    rw [keepBy]
    apply ih
    split
    next => exact apart
    next new => exact (apartBy_concat rel kept item).mpr ⟨apart, by simpa using new⟩

theorem keepBy_of_apart (kept items : List α) (apart : ApartBy rel (kept ++ items)) :
    keepBy rel kept items = kept ++ items := by
  induction items generalizing kept with
  | nil => simp [keepBy]
  | cons item rest ih =>
    have more : ApartBy rel ((kept ++ [item]) ++ rest) := by simpa using apart
    have new := ((apartBy_concat rel kept item).mp (List.pairwise_append.mp more).1).2
    simp [keepBy, new, ih _ more]

variable {rel}

theorem ApartBy.eq_of_rel {items : List α} (apart : ApartBy rel items) {a b : α} (member : a ∈ items)
    (member' : b ∈ items) (one : rel a b = true) (other : rel b a = true) : a = b := by
  induction items with
  | nil => cases member
  | cons first rest ih =>
    obtain ⟨head, tail⟩ := List.pairwise_cons.mp apart
    rcases List.mem_cons.mp member with rfl | later <;>
      rcases List.mem_cons.mp member' with rfl | later'
    · rfl
    · simp [head b later'] at other
    · simp [head a later] at one
    · exact ih tail later later'

theorem any_of_rel (trans : ∀ a b c, rel a b = true → rel b c = true → rel a c = true)
    {item other : α} {kept : List α} (related : rel item other = true)
    (known : kept.any (rel other) = true) : kept.any (rel item) = true := by
  obtain ⟨earlier, member, further⟩ := List.any_eq_true.mp known
  exact List.any_eq_true.mpr ⟨earlier, member, trans _ _ _ related further⟩

theorem mem_keepBy_iff
    (trans : ∀ a b c, rel a b = true → rel b c = true → rel a c = true) (item : α)
    (kept items : List α) :
    item ∈ keepBy rel kept items ↔
      item ∈ kept ∨ (kept.any (rel item) = false ∧ IsFirstBy rel item items) := by
  induction items generalizing kept with
  | nil => simp [keepBy, IsFirstBy]
  | cons first rest ih =>
    rw [keepBy, ih, isFirstBy_cons]
    split
    next known =>
      -- What is left out leaves nothing else out: whatever is related to it is related to
      -- something kept.
      refine or_congr_right (and_congr_right fun new => ?_)
      have apart : rel item first = false := by
        by_contra related
        have related := eq_true_of_ne_false related
        exact absurd (any_of_rel trans related known) (by simp [new])
      have other : item ≠ first := by
        rintro rfl
        simp [known] at new
      simp [apart, other]
    next new =>
      have among : (kept ++ [first]).any (rel item) = false ↔
          kept.any (rel item) = false ∧ rel item first = false := by
        simp
      rw [List.mem_append, List.mem_singleton, among, or_assoc, and_or_left, and_assoc]
      refine or_congr_right (or_congr_left ⟨?_, And.right⟩)
      rintro rfl
      exact ⟨by simpa using new, rfl⟩

theorem exists_keepBy (refl : ∀ a, rel a a = true) (kept items : List α) {item : α}
    (member : item ∈ items) : ∃ first ∈ keepBy rel kept items, rel item first = true := by
  induction items generalizing kept with
  | nil => cases member
  | cons first rest ih =>
    rw [keepBy]
    cases member with
    | tail _ later => exact ih _ later
    | head =>
      obtain ⟨more, -, split⟩ := keepBy_sublist rel
        (if kept.any (rel item) then kept else kept ++ [item]) rest
      rw [split]
      by_cases known : kept.any (rel item) = true
      · obtain ⟨earlier, kept, related⟩ := List.any_eq_true.mp known
        exact ⟨earlier, by simp [known, kept], related⟩
      · exact ⟨item, by simp [known], refl item⟩

end FileSearch

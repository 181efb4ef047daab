import Mathlib.Data.List.Chain
import Mathlib.Data.List.Pairwise
import Mathlib.Data.List.Perm.Subperm

set_option autoImplicit false

namespace FileSearch

variable {α : Type} {r : α → α → Prop} (asymm : ∀ first second, r first second → ¬ r second first)

include asymm

theorem rel_places_iff {items : List α} (sorted : items.Pairwise r) {place place' : Nat}
    {item item' : α} (stands : items[place]? = some item) (stands' : items[place']? = some item') :
    r item item' ↔ place < place' := by
  obtain ⟨inside, rfl⟩ := List.getElem?_eq_some_iff.mp stands
  obtain ⟨inside', rfl⟩ := List.getElem?_eq_some_iff.mp stands'
  have forward := List.pairwise_iff_getElem.mp sorted
  refine ⟨fun before => ?_, forward place place' inside inside'⟩
  rcases Nat.lt_trichotomy place place' with less | same | more
  · exact less
  · subst same
    exact absurd before (asymm _ _ before)
  · exact absurd before (asymm _ _ (forward place' place inside' inside more))

variable [DecidableRel r]

theorem countP_before {items : List α} (sorted : items.Pairwise r) {place : Nat} {item : α}
    (stands : items[place]? = some item) : (items.countP fun other => r other item) = place := by
  induction items generalizing place with
  | nil => cases stands
  | cons first rest ih =>
    obtain ⟨least, sorted⟩ := List.pairwise_cons.mp sorted
    cases place with
    | zero =>
      obtain rfl : first = item := by simpa using stands
      refine List.countP_eq_zero.mpr fun other member => ?_
      rcases List.mem_cons.mp member with rfl | later
      · simpa using fun before => asymm _ _ before before
      · simpa using asymm _ _ (least other later)
    | succ place =>
      rw [List.getElem?_cons_succ] at stands
      have before := least item (List.mem_of_getElem? stands)
      rw [List.countP_cons_of_pos (by simpa using before), ih sorted stands]

section Growing

variable {items : List α} (sorted : items.Pairwise r) {early late : α → Bool}
  (grows : ∀ item, early item = true → late item = true)

include sorted grows

theorem rel_next_iff {place : Nat} {item next : α}
    (stands : (items.filter early)[place]? = some item)
    (follows : (items.filter late)[place + 1]? = some next) :
    r item next ↔ ∀ other ∈ items, r other item → late other = true → early other = true := by
  have listed : item ∈ items.filter early := List.mem_of_getElem? stands
  have stays : item ∈ items.filter late :=
    (List.monotone_filter_right items grows).subset listed
  obtain ⟨pushed, stands'⟩ := List.mem_iff_getElem?.mp stays
  have count := countP_before asymm (sorted.filter early) stands
  have count' := countP_before asymm (sorted.filter late) stands'
  rw [List.countP_filter] at count count'
  rw [rel_places_iff asymm (sorted.filter late) stands' follows, Nat.lt_succ_iff, ← count, ← count']
  have joins (other : α) : (decide (r other item) && early other) = true →
      (decide (r other item) && late other) = true := by
    simpa using fun before shown => ⟨before, grows other shown⟩
  constructor
  · intro fewer other member before shown
    have all := List.monotone_filter_right items joins
    rw [List.countP_eq_length_filter, List.countP_eq_length_filter] at fewer
    have same := all.eq_of_length_le fewer
    have found : other ∈ items.filter fun other => decide (r other item) && late other :=
      List.mem_filter.mpr ⟨member, by simp [before, shown]⟩
    rw [← same] at found
    exact (Bool.and_eq_true_iff.mp (List.mem_filter.mp found).2).2
  · intro nobody
    refine List.countP_mono_left fun other member joined => ?_
    obtain ⟨before, shown⟩ := Bool.and_eq_true_iff.mp joined
    rw [before, nobody other member (of_decide_eq_true before) shown]
    rfl

end Growing

theorem picked_sorted_iff (chain : ∀ first middle last, r first middle → r middle last → r first last)
    {items picked : List α} (sorted : items.Pairwise r) {shown : Nat → α → Bool}
    (grows : ∀ turn item, shown turn item = true → shown (turn + 1) item = true)
    (picks : ∀ turn, (inside : turn < picked.length) →
      (items.filter (shown turn))[turn]? = some picked[turn]) :
    picked.Pairwise r ↔ ∀ turn, (inside : turn + 1 < picked.length) → ∀ other ∈ items,
      r other picked[turn] → shown (turn + 1) other = true → shown turn other = true := by
  have : Trans r r r := ⟨chain _ _ _⟩
  rw [← List.isChain_iff_pairwise, List.isChain_iff_getElem]
  exact forall₂_congr fun turn inside =>
    rel_next_iff asymm sorted (grows turn) (picks turn (by omega)) (picks (turn + 1) inside)

end FileSearch

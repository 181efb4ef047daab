import FileSearch.Index.Walk
import FileSearch.Proofs.Order.Stability
import FileSearch.Proofs.Path.Normal
import FileSearch.Proofs.Path.Order

set_option autoImplicit false

namespace FileSearch

open Std (TransCmp)

namespace Path

def MayPrecede (left right : Path) : Prop :=
  (left.compare right).isLE = true

instance : DecidableRel MayPrecede := fun _ _ => inferInstanceAs (Decidable (_ = true))

theorem mayPrecede_trans (first middle last : Path) (early : first.MayPrecede middle)
    (late : middle.MayPrecede last) : first.MayPrecede last :=
  TransCmp.isLE_trans early late

theorem mayPrecede_total (left right : Path) :
    ((left.compare right).isLE || (right.compare left).isLE) = true := by
  have swap : right.compare left = (left.compare right).swap := Std.OrientedCmp.eq_swap
  rw [swap]
  cases left.compare right <;> rfl

theorem ties_iff (left right : Path) :
    Ties MayPrecede left right ↔ left.sameAs right = true := by
  have swap : right.compare left = (left.compare right).swap := Std.OrientedCmp.eq_swap
  rw [← compare_eq_iff, Ties, MayPrecede, MayPrecede, swap]
  cases left.compare right <;> simp

theorem isFirst_iff (path : Path) (paths : List Path) :
    path.IsFirst paths ↔ (paths.filter path.sameAs).head? = some path := by
  rw [List.head?_filter, List.find?_eq_some_iff_append]
  simp [IsFirst, isAmong, sameAs_self]

def inOrder (paths : List Path) : List Path :=
  paths.mergeSort fun left right => (left.compare right).isLE

theorem inOrder_ordered (paths : List Path) : (inOrder paths).Pairwise MayPrecede :=
  List.pairwise_mergeSort mayPrecede_trans mayPrecede_total paths

theorem isFirst_inOrder (path : Path) (paths : List Path) :
    path.IsFirst (inOrder paths) ↔ path.IsFirst paths := by
  have same := filter_ties_eq mayPrecede_trans (List.mergeSort_perm paths _)
    (fun part ordered within =>
      List.sublist_mergeSort mayPrecede_trans mayPrecede_total ordered within) path
  simp only [ties_iff, Bool.decide_eq_true] at same
  rw [isFirst_iff, isFirst_iff, inOrder, same]

end Path

namespace WalkIndex

open FileSearch.Path

theorem dropRepeated_sublist {α : Type} (same : α → α → Bool) (folders : List α) :
    (dropRepeated same folders).Sublist folders := by
  fun_induction dropRepeated same folders with
  | case1 => exact List.Sublist.refl _
  | case2 folder => exact List.Sublist.refl _
  | case3 first second rest same ih => exact ih.trans ((List.sublist_cons_self _ _).cons_cons first)
  | case4 first second rest apart ih => exact ih.cons_cons first

theorem dropRepeated_ordered (paths : List Path) (ordered : paths.Pairwise MayPrecede) :
    (dropRepeated sameAs paths).Pairwise fun left right => left.compare right = .lt := by
  fun_induction dropRepeated sameAs paths with
  | case1 => exact List.Pairwise.nil
  | case2 path => exact List.pairwise_singleton _ _
  | case3 first second rest same ih =>
    exact ih (ordered.sublist ((List.sublist_cons_self _ _).cons_cons first))
  | case4 first second rest apart ih =>
    obtain ⟨before, ordered⟩ := List.pairwise_cons.mp ordered
    refine List.pairwise_cons.mpr ⟨fun other kept => ?_, ih ordered⟩
    have less : first.compare second = .lt := by
      have early := before second List.mem_cons_self
      rw [MayPrecede] at early
      cases order : first.compare second with
      | lt => rfl
      | eq => exact absurd ((compare_eq_iff first second).mp order) apart
      | gt => simp [order] at early
    have late : (second.compare other).isLE = true := by
      cases (dropRepeated_sublist sameAs _).subset kept with
      | head => exact ((ties_iff second second).mpr (sameAs_self second)).1
      | tail _ member => exact (List.pairwise_cons.mp ordered).1 other member
    exact TransCmp.lt_of_lt_of_isLE less late

theorem mem_dropRepeated_iff (path : Path) (paths : List Path)
    (ordered : paths.Pairwise MayPrecede) : path ∈ dropRepeated sameAs paths ↔ path.IsFirst paths := by
  rw [isFirst_iff]
  fun_induction dropRepeated sameAs paths with
  | case1 => simp
  | case2 other =>
    by_cases same : path.sameAs other = true
    · simp [same, eq_comm]
    · have differ : path ≠ other := fun equal => same (equal ▸ sameAs_self path)
      simp [same, differ]
  | case3 first second rest same ih =>
    -- The two are spellings of one path, and the first one answers for both.
    rw [ih (ordered.sublist ((List.sublist_cons_self _ _).cons_cons first))]
    by_cases alike : path.sameAs first = true
    · simp [alike]
    · have alike' : ¬ path.sameAs second = true := fun alike' =>
        alike (sameAs_trans _ _ _ alike' (by rwa [sameAs_comm]))
      simp [alike, alike']
  | case4 first second rest apart ih =>
    have less := dropRepeated_ordered (first :: second :: rest) ordered
    rw [dropRepeated, if_neg apart] at less
    rw [List.mem_cons, ih (List.pairwise_cons.mp ordered).2]
    by_cases alike : path.sameAs first = true
    · rw [List.filter_cons_of_pos alike, List.head?_cons, Option.some.injEq, eq_comm]
      -- A later spelling of the first path would be kept as well, and be greater than it.
      refine or_iff_left fun later => ?_
      have kept := (ih (List.pairwise_cons.mp ordered).2).mpr later
      have early := (List.pairwise_cons.mp less).1 path kept
      rw [sameAs_comm, ← compare_eq_iff, early] at alike
      cases alike
    · have differ : path ≠ first := fun equal => alike (equal ▸ sameAs_self path)
      rw [List.filter_cons_of_neg alike]
      simp [differ]

theorem addOuter_eq_keepBy {α : Type} (within : α → α → Bool) (kept folders : List α) :
    addOuter within kept folders = keepBy within kept folders := by
  induction folders generalizing kept with
  | nil => rfl
  | cons folder rest ih => exact ih _

theorem resolveRoots_eq (volumeRoot : Path) (paths : List Path) :
    resolveRoots volumeRoot (paths.map .directory) =
      keepBy isWithin [] (dropRepeated sameAs (inOrder paths)) := by
  rw [resolveRoots, outermost, addOuter_eq_keepBy]
  simp [inOrder, Function.comp_def]

variable (volumeRoot : Path) (paths : List Path)

theorem resolveRoots_ordered :
    (resolveRoots volumeRoot (paths.map .directory)).Pairwise fun left right =>
      left.compare right = .lt := by
  obtain ⟨more, within, split⟩ := keepBy_sublist isWithin [] (dropRepeated sameAs (inOrder paths))
  rw [resolveRoots_eq, split, List.nil_append]
  exact (dropRepeated_ordered _ (inOrder_ordered paths)).sublist within

theorem isFirst_of_mem {root : Path}
    (kept : root ∈ resolveRoots volumeRoot (paths.map .directory)) : root.IsFirst paths := by
  obtain ⟨more, within, split⟩ := keepBy_sublist isWithin [] (dropRepeated sameAs (inOrder paths))
  rw [resolveRoots_eq, split, List.nil_append] at kept
  have first := (mem_dropRepeated_iff root _ (inOrder_ordered paths)).mp (within.subset kept)
  exact (isFirst_inOrder root paths).mp first

theorem mem_resolveRoots_iff (root : Path) :
    root ∈ resolveRoots volumeRoot (paths.map .directory) ↔
      root.IsFirst paths ∧ ∀ outer : Path, outer.IsFirst paths → outer.compare root = .lt →
        root.isWithin outer = false := by
  have ordered := dropRepeated_ordered _ (inOrder_ordered paths)
  have firsts (path : Path) : path ∈ dropRepeated sameAs (inOrder paths) ↔ path.IsFirst paths := by
    rw [mem_dropRepeated_iff path _ (inOrder_ordered paths), isFirst_inOrder]
  rw [resolveRoots_eq, mem_keepBy_iff isWithin_trans]
  simp only [← firsts, List.not_mem_nil, false_or, List.any_nil, true_and]
  generalize dropRepeated sameAs (inOrder paths) = listed at ordered
  -- In a strictly ordered list, what stands before a folder is what is less than it.
  constructor
  · rintro ⟨before, after, rfl, alone⟩
    refine ⟨by simp, fun outer member less => ?_⟩
    obtain ⟨-, later, -⟩ := List.pairwise_append.mp ordered
    rcases List.mem_append.mp member with early | late
    · simpa using List.any_eq_false.mp alone outer early
    · cases late with
      | head => simp [(compare_eq_iff root root).mpr (sameAs_self root)] at less
      | tail _ late =>
        have more := (List.pairwise_cons.mp later).1 outer late
        rw [@Std.OrientedCmp.eq_swap _ Path.compare, more] at less
        cases less
  · rintro ⟨member, alone⟩
    obtain ⟨before, after, rfl⟩ := List.append_of_mem member
    refine ⟨before, after, rfl, List.any_eq_false.mpr fun outer early => ?_⟩
    have less := (List.pairwise_append.mp ordered).2.2 outer early root List.mem_cons_self
    simp [alone outer (by simp [early]) less]

theorem exists_root {path : Path} (named : path ∈ paths) :
    ∃ first, first.IsFirst paths ∧ path.sameAs first = true ∧
      ∃ root ∈ resolveRoots volumeRoot (paths.map .directory), first.isWithin root = true := by
  obtain ⟨first, kept, same⟩ := exists_keepBy sameAs_self [] paths named
  rw [← addNew_eq_keepBy] at kept
  have isFirst := (mem_distinct_iff first paths).mp kept
  refine ⟨first, isFirst, same, ?_⟩
  rw [resolveRoots_eq]
  apply exists_keepBy isWithin_self
  rwa [mem_dropRepeated_iff first _ (inOrder_ordered paths), isFirst_inOrder]

end WalkIndex

end FileSearch

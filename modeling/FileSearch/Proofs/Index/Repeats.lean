import FileSearch.Proofs.Index.Reaching
import FileSearch.Proofs.Path.Inside
import Mathlib.Data.List.Nodup

set_option autoImplicit false

namespace FileSearch

namespace Visit

variable (tree : Tree) (predicate : Predicate) (visits : List Visit)

theorem recorded_sublist :
    ((visits.filterMap (record? tree false predicate)).map RawRecord.place?).Sublist
      ((visits.filterMap place?).map some) := by
  induction visits with
  | nil => exact List.Sublist.refl _
  | cons visit rest ih =>
    cases visit with
    | entry met node? =>
      by_cases held : predicate.holds (attributes tree false met node?) = true
      · simpa [record?, held, place?] using ih.cons_cons (some met.components)
      · simpa [record?, held, place?] using ih.cons (some met.components)
    | _ => exact ih

theorem recorded_always :
    (visits.filterMap (record? tree false .always)).map RawRecord.place? =
      (visits.filterMap place?).map some := by
  induction visits with
  | nil => rfl
  | cons visit rest ih =>
    cases visit with
    | entry met node? => simp [record?, Predicate.holds, place?, ih]
    | _ => exact ih

end Visit

namespace WalkIndex

section

variable {ℓ : Type} {index : WalkIndex ℓ} {outer inner root : Path}

theorem starts_differ {paths : List Path} (start : outer ∈ index.starts paths)
    (start' : inner ∈ index.starts paths) (differ : outer ≠ inner) :
    outer.sameAs inner = false := by
  have symm : Std.Symm fun left right : Path => left.sameAs right = false :=
    ⟨fun left right apart => Path.sameAs_comm left right ▸ apart⟩
  exact (starts_apart paths).forall start start' differ

theorem starts_nodup (paths : List Path) : (index.starts paths).Nodup :=
  (starts_apart paths).imp fun {left right} apart same => by
    rw [same, Path.sameAs_self] at apart
    cases apart

theorem recorded_places_perm (paths : List Path) (now : Nat)
    (exist : ∀ path ∈ paths, (index.tree.folder? path).isSome = true) (predicate : Predicate)
    (order : Order) :
    ((index.walked ⟨predicate, paths.map .directory, order⟩ now).map RawRecord.place?).Perm
      ((((index.starts paths).flatMap (Visit.startingAt index.tree index.hidden)).filterMap
        (Visit.record? index.tree false predicate)).map RawRecord.place?) :=
  (index.walked_perm ⟨predicate, paths.map .directory, order⟩ now
    fun root (start : root ∈ index.starts paths) => exist root (mem_of_mem_starts start)).map _

variable (proper : index.tree.IsProper)
include proper

theorem mem_places_iff (place : List Component) :
    place ∈ (Visit.startingAt index.tree index.hidden root).filterMap Visit.place? ↔
      ∃ names name node, index.Meets root names name node ∧
        place = root.components ++ names.map .named ++ [.named name] := by
  rw [Visit.mem_places_iff]
  constructor
  · rintro ⟨met, node?, visited, rfl⟩
    obtain ⟨names, name, node, meets, rfl, -⟩ := (mem_startingAt_iff proper met node?).mp visited
    exact ⟨names, name, node, meets, meets.components proper⟩
  · rintro ⟨names, name, node, meets, rfl⟩
    exact ⟨_, _, (mem_startingAt_iff proper _ _).mpr ⟨names, name, node, meets, rfl, rfl⟩,
      meets.components proper⟩

theorem places_nodup :
    ((Visit.startingAt index.tree index.hidden root).filterMap Visit.place?).Nodup := by
  rw [Visit.startingAt]
  cases leads : index.tree.folder? root with
  | none => exact List.nodup_nil
  | some entries =>
    obtain ⟨-, absolute, -⟩ := Tree.folder?_iff.mp leads
    exact Visit.among_places_nodup (Tree.folder?_areProper proper leads) absolute

theorem reaches_of_meets {names more : List String} {name last : String} {node : Node}
    {between : List Component} (meets : index.Meets outer names name node)
    (longer : inner.components = outer.components ++ between)
    (same : outer.components ++ names.map .named ++ [.named name] =
      inner.components ++ more.map .named ++ [.named last]) : index.Reaches outer inner := by
  obtain ⟨inside, opens, -⟩ := meets
  have shorter := (List.append_inj' same rfl).1
  rw [longer, List.append_assoc, List.append_cancel_left_eq, List.map_eq_append_iff] at shorter
  obtain ⟨chain, rest, rfl, rfl, -⟩ := shorter
  obtain ⟨middle, opens⟩ := opens.init proper
  exact ⟨chain, middle, opens, longer⟩

theorem not_disjoint_of_reaches (reaches : index.Reaches outer inner)
    (shows : index.Shows inner) :
    ¬ ((Visit.startingAt index.tree index.hidden outer).filterMap Visit.place?).Disjoint
      ((Visit.startingAt index.tree index.hidden inner).filterMap Visit.place?) := by
  intro disjoint
  obtain ⟨names, inside, opens, longer⟩ := reaches
  obtain ⟨entries, leads, ⟨name, node⟩, listed, wanted⟩ := shows
  cases opens.leads longer leads
  have meets : index.Meets outer names name node := ⟨inside, opens, wanted, listed⟩
  have meets' : index.Meets inner [] name node :=
    ⟨inside, (index.opens_nil_iff inner inside).mpr leads, wanted, listed⟩
  refine disjoint ((mem_places_iff proper _).mpr ⟨names, name, node, meets, rfl⟩)
    ((mem_places_iff proper _).mpr ⟨[], name, node, meets', ?_⟩)
  simp [longer]

theorem places_disjoint_iff :
    ((Visit.startingAt index.tree index.hidden outer).filterMap Visit.place?).Disjoint
        ((Visit.startingAt index.tree index.hidden inner).filterMap Visit.place?) ↔
      (index.Reaches outer inner → ¬ index.Shows inner) ∧
        (index.Reaches inner outer → ¬ index.Shows outer) := by
  constructor
  · intro disjoint
    exact ⟨fun reaches shows => not_disjoint_of_reaches proper reaches shows disjoint,
      fun reaches shows => not_disjoint_of_reaches proper reaches shows (List.disjoint_symm disjoint)⟩
  · rintro ⟨forth, back⟩ place met met'
    obtain ⟨names, name, node, meets, rfl⟩ := (mem_places_iff proper _).mp met
    obtain ⟨more, last, node', meets', same⟩ := (mem_places_iff proper _).mp met'
    have split := same
    rw [List.append_assoc, List.append_assoc, List.append_eq_append_iff] at split
    rcases split with ⟨between, longer, -⟩ | ⟨between, longer, -⟩
    · exact forth (reaches_of_meets proper meets longer same) (shows_of_meets proper meets')
    · exact back (reaches_of_meets proper meets' longer same.symm) (shows_of_meets proper meets)

theorem all_places_nodup_iff (paths : List Path) :
    (((index.starts paths).flatMap (Visit.startingAt index.tree index.hidden)).filterMap
        Visit.place?).Nodup ↔
      ∀ outer ∈ index.starts paths, ∀ inner ∈ index.starts paths, outer ≠ inner →
        index.Reaches outer inner → ¬ index.Shows inner := by
  rw [List.filterMap_flatMap, List.nodup_flatMap]
  constructor
  · rintro ⟨-, apart⟩ outer start inner start' differ
    have symm : Std.Symm (Function.onFun List.Disjoint fun root : Path =>
        (Visit.startingAt index.tree index.hidden root).filterMap Visit.place?) :=
      ⟨fun _ _ => List.disjoint_symm⟩
    exact ((places_disjoint_iff proper).mp (apart.forall start start' differ)).1
  · intro apart
    refine ⟨fun root _ => places_nodup proper, ?_⟩
    refine (starts_nodup paths).pairwise_of_forall_ne fun outer start inner start' differ => ?_
    exact (places_disjoint_iff proper).mpr ⟨apart outer start inner start' differ,
      apart inner start' outer start differ.symm⟩

theorem not_reaches_of_plain (paths : List Path) (plain : ∀ path ∈ paths, path.IsPlain)
    (start : outer ∈ index.starts paths) (start' : inner ∈ index.starts paths)
    (differ : outer ≠ inner) : ¬ index.Reaches outer inner := by
  rintro ⟨names, inside, opens, longer⟩
  obtain ⟨-, named, -⟩ := opens.named proper
  have within := Path.isWithin_of_components (plain inner (mem_of_mem_starts start'))
    (plain outer (mem_of_mem_starts start)) named longer
  have early := Path.compare_of_longer ⟨_, longer.symm⟩ (starts_differ start start' differ)
  obtain ⟨-, alone⟩ := (mem_resolveRoots_iff index.volumeRoot paths inner).mp start'
  have outside := alone outer (isFirst_of_mem index.volumeRoot paths start) early
  rw [within] at outside
  cases outside

theorem walked_nodup_iff (paths : List Path) (now : Nat)
    (exist : ∀ path ∈ paths, (index.tree.folder? path).isSome = true) :
    (∀ predicate order, ((index.walked ⟨predicate, paths.map .directory, order⟩ now).map
        RawRecord.place?).Nodup) ↔
      ∀ outer ∈ index.starts paths, ∀ inner ∈ index.starts paths, outer ≠ inner →
        index.Reaches outer inner → ¬ index.Shows inner := by
  have some_injective : Function.Injective (some : List Component → Option (List Component)) :=
    fun _ _ => Option.some.inj
  rw [← all_places_nodup_iff proper paths]
  constructor
  · -- The condition that always holds records all that is met.
    intro once
    have once := once .always ⟨.path, true⟩
    rwa [(recorded_places_perm paths now exist _ _).nodup_iff, Visit.recorded_always,
      List.nodup_map_iff some_injective] at once
  · intro once predicate order
    rw [(recorded_places_perm paths now exist _ _).nodup_iff]
    exact (Visit.recorded_sublist _ _ _).nodup (once.map some_injective)

/-- Queries record no file twice exactly if no walk meets anything in a folder where another walk
starts, and that is so if all folders are spelled plainly. -/
theorem recorded_once_iff (paths : List Path) (now : Nat)
    (exist : ∀ path ∈ paths, (index.tree.folder? path).isSome = true) :
    ((∀ predicate order, ((index.walked ⟨predicate, paths.map .directory, order⟩ now).map
        RawRecord.place?).Nodup) ↔
      ∀ outer ∈ index.starts paths, ∀ inner ∈ index.starts paths, outer ≠ inner →
        index.Reaches outer inner → ¬ index.Shows inner) ∧
    ((∀ path ∈ paths, path.IsPlain) → ∀ predicate order,
      ((index.walked ⟨predicate, paths.map .directory, order⟩ now).map
        RawRecord.place?).Nodup) := by
  have once_iff := walked_nodup_iff proper paths now exist
  refine ⟨once_iff, fun plain => once_iff.mpr fun outer start inner start' differ reaches => ?_⟩
  exact absurd reaches (not_reaches_of_plain proper paths plain start start' differ)

end

-- One file, in a folder three levels down.
def deep : WalkIndex Unit where
  tree := ⟨Entries.insert (.file {} ⟨#[]⟩) ["a", "b", "c", "x"] []⟩
  volumeRoot := ⟨"/"⟩

theorem deep_isProper : deep.tree.IsProper := by
  have named : ∀ name ∈ ["a", "b", "c", "x"], IsFileName name := by decide
  exact Entries.AreProper.insert (by simp) named Entries.areProper_nil

-- A dot in the spelling of a folder hides that another one lies in it, a slash at the end does not.
theorem dotted_spelling_walked_twice :
    (¬ ∀ predicate order, ((deep.walked
        ⟨predicate, [(⟨"/a/./b"⟩ : Path), ⟨"/a/b/c"⟩].map .directory, order⟩ 0).map
        RawRecord.place?).Nodup) ∧
      ∀ predicate order, ((deep.walked
        ⟨predicate, [(⟨"/a/b/"⟩ : Path), ⟨"/a/b/c"⟩].map .directory, order⟩ 0).map
        RawRecord.place?).Nodup := by
  have leads : deep.tree.folder? ⟨"/a/b/c"⟩ = some _ :=
    Tree.folder?_of_inner? ["a", "b", "c"] (by decide) (by decide) (by decide) rfl
  constructor
  · have leads' : deep.tree.folder? ⟨"/a/./b"⟩ = some _ :=
      Tree.folder?_of_inner? ["a", "b"] (by decide) (by decide) (by decide) rfl
    intro once
    obtain ⟨exact_iff, -⟩ := recorded_once_iff deep_isProper [⟨"/a/./b"⟩, ⟨"/a/b/c"⟩] 0
      (by simp [leads, leads'])
    have start : (⟨"/a/./b"⟩ : Path) ∈ deep.starts [⟨"/a/./b"⟩, ⟨"/a/b/c"⟩] :=
      mem_starts_of_alone ⟨[], [⟨"/a/b/c"⟩], rfl, rfl⟩ (by decide)
    have start' : (⟨"/a/b/c"⟩ : Path) ∈ deep.starts [⟨"/a/./b"⟩, ⟨"/a/b/c"⟩] :=
      mem_starts_of_alone ⟨[⟨"/a/./b"⟩], [], rfl, rfl⟩ (by decide)
    have reaches : deep.Reaches ⟨"/a/./b"⟩ ⟨"/a/b/c"⟩ :=
      ⟨["c"], _, ⟨_, leads', rfl, by decide, by decide⟩, by decide⟩
    exact exact_iff.mp once _ start _ start' (by decide) reaches
      ⟨_, leads, _, List.mem_cons_self, rfl⟩
  · have leads' : deep.tree.folder? ⟨"/a/b/"⟩ = some _ :=
      Tree.folder?_of_inner? ["a", "b"] (by decide) (by decide) (by decide) rfl
    obtain ⟨-, plain⟩ := recorded_once_iff deep_isProper [⟨"/a/b/"⟩, ⟨"/a/b/c"⟩] 0
      (by simp [leads, leads'])
    have closed : Path.IsPlain ⟨"/a/b/"⟩ := ⟨by decide, by decide⟩
    have inner : Path.IsPlain ⟨"/a/b/c"⟩ := ⟨by decide, by decide⟩
    exact plain (by simp [closed, inner])

end WalkIndex

end FileSearch

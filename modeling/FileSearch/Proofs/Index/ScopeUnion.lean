import FileSearch.Proofs.Index.Reaching
import FileSearch.Proofs.Path.Inside

set_option autoImplicit false

namespace FileSearch.WalkIndex

variable {ℓ : Type} (index : WalkIndex ℓ)

-- Where a query that names folders finds something.
def foundIn (paths : List Path) (predicate : Predicate) (order : Order) (now : Nat) :
    Set (List Component) :=
  index.found ⟨predicate, paths.map .directory, order⟩ now

-- Both lists together find what they find alone.
def Unites (left right : List Path) (predicate : Predicate) (order : Order) (now : Nat) : Prop :=
  index.foundIn (left ++ right) predicate order now =
    index.foundIn left predicate order now ∪ index.foundIn right predicate order now

-- A settled path, spelled plainly, that names its way from the root, and no name is skipped.
structure IsDirect (path : Path) : Prop where
  settled : path.IsSettled
  plain : path.IsPlain
  down : .parent ∉ path.components
  wanted : ∀ name, .named name ∈ path.components → Visit.isSkipped index.hidden name = false

-- The folders where walks start for both lists, and for each alone, cover one another.
def Joins (left right : List Path) : Prop :=
  index.Covers (index.starts (left ++ right)) (index.starts left ++ index.starts right) ∧
    index.Covers (index.starts left ++ index.starts right) (index.starts (left ++ right))

section

variable {index} {outer inner left right paths : List Path}

theorem covers_of_yields
    (found : ∀ place, (∃ path ∈ inner, index.Yields path .always place) →
      ∃ root ∈ outer, index.Yields root .always place) : index.Covers outer inner := by
  intro path member ⟨entries, leads, ⟨name, node⟩, listed, wanted⟩
  have meets : index.Meets path [] name node :=
    ⟨entries, (index.opens_nil_iff path entries).mpr leads, wanted, listed⟩
  obtain ⟨root, start, names, last, node', ⟨inside, opens, -⟩, -, same⟩ :=
    found _ ⟨path, member, [], name, node, meets, rfl, rfl⟩
  rw [List.map_nil, List.append_nil] at same
  exact ⟨root, start, names, inside, opens, (List.append_inj' same rfl).1⟩

variable (proper : index.tree.IsProper)
include proper

theorem yields_of_covers {predicate : Predicate} {place : List Component}
    (carries : ∀ root ∈ outer, ∀ path ∈ inner, index.Reaches root path →
      index.Yields path predicate place → index.Yields root predicate place)
    (covers : index.Covers outer inner) (found : ∃ path ∈ inner, index.Yields path predicate place) :
    ∃ root ∈ outer, index.Yields root predicate place := by
  obtain ⟨path, member, yields⟩ := found
  obtain ⟨names, name, node, meets, -⟩ := id yields
  obtain ⟨root, start, reaches⟩ := covers path member (shows_of_meets proper meets)
  exact ⟨root, start, carries root start path member reaches yields⟩

theorem mem_foundIn_iff (now : Nat)
    (exist : ∀ path ∈ paths, (index.tree.folder? path).isSome = true) (predicate : Predicate)
    (order : Order) (place : List Component) :
    place ∈ index.foundIn paths predicate order now ↔
      ∃ root ∈ index.starts paths, index.Yields root predicate place :=
  mem_found_iff index proper ⟨predicate, paths.map .directory, order⟩ now
    (fun root (start : root ∈ index.starts paths) => exist root (mem_of_mem_starts start)) place

theorem unites_iff_joins (now : Nat)
    (exist : ∀ path ∈ left ++ right, (index.tree.folder? path).isSome = true)
    (admitted : Predicate → Prop) (always : admitted .always)
    (carries : ∀ predicate, admitted predicate → ∀ root ∈ left ++ right, ∀ path ∈ left ++ right,
      index.Reaches root path → ∀ place, index.Yields path predicate place →
      index.Yields root predicate place) :
    (∀ predicate, admitted predicate → ∀ order, index.Unites left right predicate order now) ↔
      index.Joins left right := by
  have existLeft : ∀ path ∈ left, (index.tree.folder? path).isSome = true :=
    fun path member => exist path (List.mem_append_left _ member)
  have existRight : ∀ path ∈ right, (index.tree.folder? path).isSome = true :=
    fun path member => exist path (List.mem_append_right _ member)
  have together (predicate : Predicate) (order : Order) (place : List Component) :
      place ∈ index.foundIn left predicate order now ∪ index.foundIn right predicate order now ↔
        ∃ root ∈ index.starts left ++ index.starts right, index.Yields root predicate place := by
    rw [Set.mem_union, mem_foundIn_iff proper now existLeft, mem_foundIn_iff proper now existRight]
    simp only [List.mem_append, or_and_right, exists_or]
  constructor
  · intro unite
    have unite (place : List Component) := Set.ext_iff.mp (unite .always always ⟨.path, true⟩) place
    simp only [together, mem_foundIn_iff proper now exist] at unite
    exact ⟨covers_of_yields fun place => (unite place).mpr,
      covers_of_yields fun place => (unite place).mp⟩
  · rintro ⟨forth, back⟩ predicate good order
    have named {path : Path} (start : path ∈ index.starts left ++ index.starts right) :
        path ∈ left ++ right :=
      List.mem_append.mpr ((List.mem_append.mp start).imp mem_of_mem_starts mem_of_mem_starts)
    ext place
    rw [together, mem_foundIn_iff proper now exist]
    exact ⟨yields_of_covers proper (fun root start path start' reaches => carries predicate good
        root (named start) path (mem_of_mem_starts start') reaches place) back,
      yields_of_covers proper (fun root start path start' reaches => carries predicate good
        root (mem_of_mem_starts start) path (named start') reaches place) forth⟩

variable {outer inner : Path}

omit proper in
theorem IsDirect.names_of_isWithin (direct : index.IsDirect outer) (direct' : index.IsDirect inner)
    (within : inner.isWithin outer = true) :
    ∃ first names : List String, outer.components = .root :: first.map .named ∧
      inner.components = .root :: (first ++ names).map .named := by
  obtain ⟨first, around⟩ := Path.names_of_absolute direct.settled.absolute direct.down
  obtain ⟨all, whole⟩ := Path.names_of_absolute direct'.settled.absolute direct'.down
  have longer := Path.components_of_isWithin direct'.settled.isRooted direct.settled.isRooted within
  rw [around, whole, List.cons_prefix_cons] at longer
  obtain ⟨rest, split⟩ := longer.2
  obtain ⟨first', names, rfl, same, -⟩ := List.map_eq_append_iff.mp split.symm
  obtain rfl := List.map_injective_iff.mpr (fun _ _ => Component.named.inj) same
  exact ⟨first', names, around, whole⟩

theorem reaches_of_isWithin (linkless : index.tree.top.AreLinkless) (direct : index.IsDirect outer)
    (direct' : index.IsDirect inner) (exist : (index.tree.folder? outer).isSome = true)
    (exist' : (index.tree.folder? inner).isSome = true) (within : inner.isWithin outer = true) :
    index.Reaches outer inner := by
  obtain ⟨entries, leads⟩ := Option.isSome_iff_exists.mp exist
  obtain ⟨inside, leads'⟩ := Option.isSome_iff_exists.mp exist'
  obtain ⟨first, names, around, whole⟩ := direct.names_of_isWithin direct' within
  have longer : inner.components = outer.components ++ names.map .named := by
    rw [whole, around, List.map_append, List.cons_append]
  -- Without links both paths lead through folders, and the one goes through the other.
  have opens := Tree.inner?_of_folder? linkless leads' whole
  rw [Entries.inner?_append, Tree.inner?_of_folder? linkless leads around, Option.bind_some] at opens
  obtain ⟨-, named⟩ := (Tree.folder?_areProper proper leads).inner opens
  have wanted : ∀ name ∈ names, Visit.isSkipped index.hidden name = false := fun name member =>
    direct'.wanted name (longer ▸ List.mem_append_right _ (List.mem_map_of_mem member))
  have fits : (outer.below names).isTooLong = false :=
    (direct.settled.isTidy direct.plain).fits_below (direct'.settled.isTidy direct'.plain) named
      longer (Tree.folder?_iff.mp leads).1 (Tree.folder?_iff.mp leads').1
  exact ⟨names, inside, ⟨entries, leads, opens, wanted, fits⟩, longer⟩

omit proper in
theorem exists_reaching
    (reaches : ∀ outer ∈ paths, ∀ inner ∈ paths, inner.isWithin outer = true →
      index.Reaches outer inner) {path : Path} (named : path ∈ paths) :
    ∃ root ∈ index.starts paths, index.Reaches root path := by
  obtain ⟨first, member, same, root, start, within⟩ := index.exists_start named
  exact ⟨root, start, (reaches root (mem_of_mem_starts start) first member within).of_sameAs same⟩

omit proper in
theorem joins_of_reaches
    (reaches : ∀ outer ∈ left ++ right, ∀ inner ∈ left ++ right, inner.isWithin outer = true →
      index.Reaches outer inner) : index.Joins left right := by
  constructor
  · intro path start _
    refine exists_reaching reaches (List.mem_append.mpr ?_)
    exact (List.mem_append.mp start).imp mem_of_mem_starts mem_of_mem_starts
  · intro path start _
    rcases List.mem_append.mp (mem_of_mem_starts start) with named | named
    · obtain ⟨root, start, reached⟩ := exists_reaching (fun outer member inner member' =>
        reaches outer (List.mem_append_left _ member) inner (List.mem_append_left _ member')) named
      exact ⟨root, List.mem_append_left _ start, reached⟩
    · obtain ⟨root, start, reached⟩ := exists_reaching (fun outer member inner member' =>
        reaches outer (List.mem_append_right _ member) inner (List.mem_append_right _ member')) named
      exact ⟨root, List.mem_append_right _ start, reached⟩

/-- Two lists of folders find together what they find alone exactly if they join, whatever is asked
of folders that are spelled tidily, and whatever but paths is asked where no path is too long. They
join where there are no links and the folders are named directly. -/
theorem unites_iff (left right : List Path) (now : Nat)
    (exist : ∀ path ∈ left ++ right, (index.tree.folder? path).isSome = true) :
    ((∀ path ∈ left ++ right, path.IsTidy) →
      ((∀ predicate order, index.Unites left right predicate order now) ↔
        index.Joins left right)) ∧
    ((∀ path ∈ left ++ right, index.Fits path) →
      ((∀ predicate, predicate.Avoids .path → ∀ order,
          index.Unites left right predicate order now) ↔
        index.Joins left right)) ∧
    (index.tree.top.AreLinkless → (∀ path ∈ left ++ right, index.IsDirect path) →
      ∀ predicate order, index.Unites left right predicate order now) := by
  have tidily (tidy : ∀ path ∈ left ++ right, path.IsTidy) :
      (∀ predicate order, index.Unites left right predicate order now) ↔
        index.Joins left right := by
    rw [← unites_iff_joins proper now exist (fun _ => True) trivial]
    · simp only [forall_const]
    · intro predicate _ root start path start' reaches place
      exact yields_of_tidy proper reaches (tidy root start) (tidy path start')
  refine ⟨tidily, fun fits => ?_, fun linkless direct => ?_⟩
  · refine unites_iff_joins proper now exist _ (fun part within => ?_) ?_
    · cases within
      exact nofun
    · intro predicate avoids root start path start' reaches place
      exact yields_of_fits proper reaches (fits root start) (fits path start') avoids
  · refine (tidily fun path member => ?_).mpr (joins_of_reaches ?_)
    · exact (direct path member).settled.isTidy (direct path member).plain
    · intro outer member inner member' within
      exact reaches_of_isWithin proper linkless (direct outer member) (direct inner member')
        (exist outer member) (exist inner member') within

end

-- One file, in a folder of a name that starts with a dot.
def dotted (hidden : Bool) : WalkIndex Unit where
  tree := ⟨Entries.insert (.file {} ⟨#[]⟩) ["r", ".h", "x"] []⟩
  volumeRoot := ⟨"/"⟩
  hidden

theorem dotted_isProper (hidden : Bool) : (dotted hidden).tree.IsProper := by
  have named : ∀ name ∈ ["r", ".h", "x"], IsFileName name := by decide
  exact Entries.AreProper.insert (by simp) named Entries.areProper_nil

theorem dotted_areLinkless (hidden : Bool) : (dotted hidden).tree.top.AreLinkless := by
  refine Entries.areLinkless_singleton (by simp) fun times inner same => ?_
  cases same
  refine Entries.areLinkless_singleton (by simp) fun times inner same => ?_
  cases same
  exact Entries.areLinkless_singleton (by simp [Entries.merge]) (by simp [Entries.merge])

theorem dotted_exist (hidden : Bool) :
    ∀ path ∈ [(⟨"/r"⟩ : Path), ⟨"/r/.h"⟩], ((dotted hidden).tree.folder? path).isSome = true := by
  have outer : (dotted hidden).tree.folder? ⟨"/r"⟩ = some _ :=
    Tree.folder?_of_inner? ["r"] (by decide) (by decide) (by decide) rfl
  have inner : (dotted hidden).tree.folder? ⟨"/r/.h"⟩ = some _ :=
    Tree.folder?_of_inner? ["r", ".h"] (by decide) (by decide) (by decide) rfl
  simp [outer, inner]

theorem dotted_direct : ∀ path ∈ [(⟨"/r"⟩ : Path), ⟨"/r/.h"⟩], (dotted true).IsDirect path := by
  have outer : (dotted true).IsDirect ⟨"/r"⟩ :=
    ⟨⟨by decide, by decide, by decide⟩, ⟨by decide, by decide⟩, by decide, fun name _ => rfl⟩
  have inner : (dotted true).IsDirect ⟨"/r/.h"⟩ :=
    ⟨⟨by decide, by decide, by decide⟩, ⟨by decide, by decide⟩, by decide, fun name _ => rfl⟩
  simp [outer, inner]

-- A hidden folder that is named beside the one around it is not searched.
theorem dotted_folder_is_lost :
    (¬ ∀ predicate order, (dotted false).Unites [⟨"/r"⟩] [⟨"/r/.h"⟩] predicate order 0) ∧
      ∀ predicate order, (dotted true).Unites [⟨"/r"⟩] [⟨"/r/.h"⟩] predicate order 0 := by
  constructor
  · intro unite
    obtain ⟨exact_iff, -⟩ := unites_iff (dotted_isProper false) [⟨"/r"⟩] [⟨"/r/.h"⟩] 0
      (dotted_exist false)
    have tidy : ∀ path ∈ [(⟨"/r"⟩ : Path), ⟨"/r/.h"⟩], path.IsTidy := fun path member =>
      (dotted_direct path member).settled.isTidy (dotted_direct path member).plain
    obtain ⟨covers, -⟩ := (exact_iff tidy).mp unite
    have leads : (dotted false).tree.folder? ⟨"/r/.h"⟩ = some _ :=
      Tree.folder?_of_inner? ["r", ".h"] (by decide) (by decide) (by decide) rfl
    have shows : (dotted false).Shows ⟨"/r/.h"⟩ := ⟨_, leads, _, List.mem_cons_self, rfl⟩
    obtain ⟨root, start, names, inside, ⟨entries, -, along⟩, longer⟩ :=
      covers ⟨"/r/.h"⟩ (by simp [starts_singleton]) shows
    cases mem_of_mem_starts start with
    | head =>
      have chain : names.map Component.named = [.named ".h"] := List.append_cancel_left longer.symm
      have member : ".h" ∈ names := by
        obtain ⟨name, member, same⟩ := List.mem_map.mp (chain ▸ List.mem_cons_self)
        exact Component.named.inj same ▸ member
      have wanted := along.wanted ".h" member
      revert wanted
      decide
    | tail _ last =>
      obtain rfl := List.mem_singleton.mp last
      obtain ⟨-, alone⟩ := (mem_resolveRoots_iff _ _ _).mp start
      have outside := alone ⟨"/r"⟩ ⟨[], [⟨"/r/.h"⟩], rfl, rfl⟩ (by decide)
      revert outside
      decide
  · obtain ⟨-, -, direct⟩ := unites_iff (dotted_isProper true) [⟨"/r"⟩] [⟨"/r/.h"⟩] 0
      (dotted_exist true)
    exact direct (dotted_areLinkless true) dotted_direct

end FileSearch.WalkIndex

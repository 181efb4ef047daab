import FileSearch.Proofs.Index.Walked
import FileSearch.Proofs.Predicate.Tested

set_option autoImplicit false

namespace FileSearch

theorem Visit.attributes_agree (tree : Tree) (node? : Option Node) {left right : Path}
    (same : left.components = right.components) (found : tree.find? left = tree.find? right) :
    (attributes tree false left node?).AgreeBeside .path (attributes tree false right node?) := by
  have name : left.fileName? = right.fileName? := by rw [Path.fileName?, Path.fileName?, same]
  have content : tree.content left = tree.content right := by rw [Tree.content, Tree.content, found]
  refine ⟨fun other beside => ?_, fun _ _ => rfl, fun _ _ => rfl, fun other beside needle => ?_⟩
  · cases other with
    | path => exact absurd rfl beside
    | fileName => exact name
    | displayName => exact name
    | _ => rfl
  · cases other with
    | path => exact absurd rfl beside
    | textContent => simp [attributes, content]
    | fileName => simp [attributes, name]
    | displayName => simp [attributes, name]
    | _ => rfl

namespace WalkIndex

variable {ℓ : Type} (index : WalkIndex ℓ)

-- The walk from a folder goes through the other one.
def Reaches (outer inner : Path) : Prop :=
  ∃ names inside, index.Opens outer names inside ∧
    inner.components = outer.components ++ names.map .named

-- There is something in the folder that a walk meets.
def Shows (path : Path) : Prop :=
  ∃ entries, index.tree.folder? path = some entries ∧
    ∃ entry ∈ entries, Visit.isSkipped index.hidden entry.1 = false

-- No path of what the walk from a folder meets is too long.
def Fits (root : Path) : Prop :=
  ∀ names name node, index.Meets root names name node →
    ((root.below names).join ⟨name⟩).isTooLong = false

-- The folders where the walks of a query start that names these.
def starts (paths : List Path) : List Path :=
  resolveRoots index.volumeRoot (paths.map .directory)

-- Each folder of the second list that shows anything is reached from one of the first.
def Covers (outer inner : List Path) : Prop :=
  ∀ path ∈ inner, index.Shows path → ∃ root ∈ outer, index.Reaches root path

section

variable {index} (proper : index.tree.IsProper) {outer inner root path : Path}
  {paths : List Path} {names more : List String} {entries inside : Entries} {name : String} {node : Node}

theorem mem_of_mem_starts (start : path ∈ index.starts paths) : path ∈ paths := by
  obtain ⟨before, after, rfl, -⟩ := isFirst_of_mem index.volumeRoot paths start
  simp

theorem mem_starts_of_alone (first : path.IsFirst paths)
    (alone : ∀ outer ∈ paths, outer.compare path = .lt → path.isWithin outer = false) :
    path ∈ index.starts paths := by
  refine (mem_resolveRoots_iff index.volumeRoot paths path).mpr ⟨first, fun outer isFirst => ?_⟩
  obtain ⟨before, after, rfl, -⟩ := isFirst
  exact alone outer (by simp)

theorem starts_singleton (path : Path) : index.starts [path] = [path] := by
  simp [starts, resolveRoots, outermost, dropRepeated, addOuter]

theorem starts_apart (paths : List Path) : Path.Apart (index.starts paths) := by
  refine (resolveRoots_ordered index.volumeRoot paths).imp fun {left right} less => ?_
  rw [Bool.eq_false_iff, ne_eq, ← Path.compare_eq_iff, less]
  exact Ordering.noConfusion

variable (index) in
theorem exists_start (named : path ∈ paths) :
    ∃ first ∈ paths, path.sameAs first = true ∧
      ∃ root ∈ index.starts paths, first.isWithin root = true := by
  obtain ⟨first, ⟨before, after, rfl, -⟩, same, within⟩ := exists_root index.volumeRoot paths named
  exact ⟨first, by simp, same, within⟩

theorem Reaches.of_sameAs (reaches : index.Reaches outer inner) (same : path.sameAs inner = true) :
    index.Reaches outer path := by
  obtain ⟨names, inside, opens, longer⟩ := reaches
  exact ⟨names, inside, opens, ((Path.sameAs_iff _ _).mp same).trans longer⟩

theorem Opens.leads (opens : index.Opens outer names inside)
    (longer : inner.components = outer.components ++ names.map .named)
    (exist : index.tree.folder? inner = some entries) : inside = entries := by
  obtain ⟨around, leads, along⟩ := opens
  obtain ⟨fits, absolute, -⟩ := Tree.folder?_iff.mp exist
  have leads' := Tree.folder?_of_components leads along.opens longer fits absolute
  exact Option.some.inj (leads'.symm.trans exist)

include proper

theorem Opens.init (opens : index.Opens root (names ++ more) inside) :
    ∃ middle, index.Opens root names middle := by
  induction more using List.reverseRecOn generalizing inside with
  | nil => exact ⟨inside, List.append_nil names ▸ opens⟩
  | append_singleton more name ih =>
    rw [← List.append_assoc, opens_concat_iff proper] at opens
    obtain ⟨⟨times, middle, opens, -⟩, -⟩ := opens
    exact ih opens

theorem shows_of_meets (meets : index.Meets root names name node) : index.Shows root := by
  induction names using List.reverseRecOn generalizing name node with
  | nil =>
    obtain ⟨inside, opens, wanted, member⟩ := meets
    exact ⟨inside, (index.opens_nil_iff root inside).mp opens, (name, node), member, wanted⟩
  | append_singleton names last ih =>
    obtain ⟨inside, opens, -⟩ := meets
    obtain ⟨⟨times, meets⟩, -⟩ := (opens_concat_iff proper).mp opens
    exact ih meets

theorem Opens.append (opens : index.Opens outer names inside)
    (longer : inner.components = outer.components ++ names.map .named)
    (fits : ∀ more name node, index.Meets inner more name node →
      index.Meets outer (names ++ more) name node →
      ((inner.below more).join ⟨name⟩).isTooLong = false →
      ((outer.below (names ++ more)).join ⟨name⟩).isTooLong = false)
    (further : index.Opens inner more entries) : index.Opens outer (names ++ more) entries := by
  -- From the end: a folder is opened if the walk meets it in the one before and its path fits.
  induction more using List.reverseRecOn generalizing entries with
  | nil =>
    rw [List.append_nil]
    exact opens.leads longer ((index.opens_nil_iff inner entries).mp further) ▸ opens
  | append_singleton more name ih =>
    obtain ⟨⟨times, meets⟩, short⟩ := (opens_concat_iff proper).mp further
    obtain ⟨middle, further, wanted, member⟩ := id meets
    have meets' : index.Meets outer (names ++ more) name (.folder times entries) :=
      ⟨middle, ih further, wanted, member⟩
    rw [← List.append_assoc]
    exact (opens_concat_iff proper).mpr ⟨⟨times, meets'⟩, fits more name _ meets meets' short⟩

theorem yields_of_tidy (reaches : index.Reaches outer inner) (tidy : outer.IsTidy)
    (tidy' : inner.IsTidy) {predicate : Predicate} {place : List Component}
    (yields : index.Yields inner predicate place) : index.Yields outer predicate place := by
  obtain ⟨names, middle, opens, longer⟩ := reaches
  obtain ⟨more, name, node, meets, held, rfl⟩ := yields
  obtain ⟨-, named, -⟩ := opens.named proper
  have same : (outer.below names).components = inner.components := by
    rw [Path.below_components tidy.absolute named, longer]
  have met (more : List String) (name : String) (node : Node)
      (meets : index.Meets inner more name node) :
      (outer.below (names ++ more)).join ⟨name⟩ = (inner.below more).join ⟨name⟩ := by
    obtain ⟨-, named', named''⟩ := meets.named proper
    rw [Path.below_append]
    exact (tidy.below named).below_join_eq tidy' same named' named''
  obtain ⟨inside, further, wanted, member⟩ := id meets
  have further := opens.append proper longer (fun more name node meets _ fits =>
    met more name node meets ▸ fits) further
  refine ⟨names ++ more, name, node, ⟨inside, further, wanted, member⟩, ?_, by simp [longer]⟩
  rw [met more name node meets]
  exact held

theorem yields_of_fits (reaches : index.Reaches outer inner) (fits : index.Fits outer)
    (fits' : index.Fits inner) {predicate : Predicate} (avoids : predicate.Avoids .path)
    {place : List Component} (yields : index.Yields inner predicate place) :
    index.Yields outer predicate place := by
  obtain ⟨names, middle, opens, longer⟩ := reaches
  obtain ⟨more, name, node, meets, held, rfl⟩ := yields
  obtain ⟨inside, further, wanted, member⟩ := id meets
  have further := opens.append proper longer (fun _ _ _ _ meets _ => fits _ _ _ meets) further
  have meets' : index.Meets outer (names ++ more) name node := ⟨inside, further, wanted, member⟩
  have same : ((outer.below (names ++ more)).join ⟨name⟩).components =
      ((inner.below more).join ⟨name⟩).components := by
    rw [meets'.components proper, meets.components proper, longer]
    simp
  have short := fits' _ _ _ meets
  have short' := fits _ _ _ meets'
  have found : index.tree.find? ((outer.below (names ++ more)).join ⟨name⟩) =
      index.tree.find? ((inner.below more).join ⟨name⟩) := by
    obtain ⟨absolute, named, named'⟩ := meets.named proper
    obtain ⟨absolute', namedAll, -⟩ := meets'.named proper
    rw [Tree.find?_join (Path.below_absolute absolute named) named' short,
      Tree.find?_join (Path.below_absolute absolute' namedAll) named' short', same]
  have seen : Visit.seen? ((outer.below (names ++ more)).join ⟨name⟩) node =
      Visit.seen? ((inner.below more).join ⟨name⟩) node := by
    rw [Visit.seen?, Visit.seen?, short, short']
  refine ⟨names ++ more, name, node, meets', ?_, by simp [longer]⟩
  dsimp only
  rw [seen, predicate.holds_congr (Visit.attributes_agree index.tree _ same found) avoids]
  exact held

end

end WalkIndex

end FileSearch

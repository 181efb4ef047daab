import FileSearch.Proofs.Index.Roots
import FileSearch.Proofs.Path.Home
import FileSearch.Proofs.Path.Inside
import FileSearch.Proofs.Path.Raw

set_option autoImplicit false

namespace FileSearch

namespace Scope

def folder (volumeRoot : Path) : Scope → Path
  | .indexedVolume => volumeRoot
  | .directory path => path

def rawFolder (volumeRoot : RawPath) : Scope → RawPath
  | .indexedVolume => volumeRoot
  | .directory path => .ofPath path

theorem rawFolder_ofPath (volumeRoot : Path) :
    rawFolder (.ofPath volumeRoot) = .ofPath ∘ folder volumeRoot := by
  funext scope
  cases scope <;> rfl

end Scope

namespace WalkIndex

section Outermost

variable {α β : Type} {compare : α → α → Ordering} {same within : α → α → Bool}
  {compare' : β → β → Ordering} {same' within' : β → β → Bool}

theorem dropRepeated_map (f : α → β) (alike : ∀ a b, same' (f a) (f b) = same a b)
    (folders : List α) :
    dropRepeated same' (folders.map f) = (dropRepeated same folders).map f := by
  fun_induction dropRepeated same folders with
  | case1 => rw [List.map_nil, dropRepeated]
  | case2 folder => rw [List.map_singleton, dropRepeated]
  | case3 first second rest repeated ih =>
    rw [List.map_cons, List.map_cons, dropRepeated, alike, if_pos repeated, ← List.map_cons, ih]
  | case4 first second rest apart ih =>
    rw [List.map_cons, List.map_cons, dropRepeated, alike, if_neg apart, ← List.map_cons, ih,
      List.map_cons]

theorem addOuter_map (f : α → β) (inside : ∀ a b, within' (f a) (f b) = within a b)
    (kept folders : List α) :
    addOuter within' (kept.map f) (folders.map f) = (addOuter within kept folders).map f := by
  induction folders generalizing kept with
  | nil => rfl
  | cons folder rest ih =>
    have known : (kept.map f).any (within' (f folder)) = kept.any (within folder) := by
      simp [List.any_map, Function.comp_def, inside]
    rw [List.map_cons, addOuter, addOuter, known, ← ih]
    split <;> simp

theorem outermost_map (f : α → β) (order : ∀ a b, compare' (f a) (f b) = compare a b)
    (alike : ∀ a b, same' (f a) (f b) = same a b)
    (inside : ∀ a b, within' (f a) (f b) = within a b) (folders : List α) :
    outermost compare' same' within' (folders.map f) =
      (outermost compare same within folders).map f := by
  have sorted := List.map_mergeSort (f := f) (l := folders)
    (r := fun left right => (compare left right).isLE)
    (s := fun left right => (compare' left right).isLE) fun a _ b _ => by rw [order]
  rw [outermost, outermost, ← sorted, dropRepeated_map f alike]
  exact addOuter_map f inside [] _

theorem outermost_pair {outer inner : α} (before : (compare outer inner).isLE)
    (covered : within inner outer) : outermost compare same within [outer, inner] = [outer] := by
  rw [outermost, List.mergeSort_of_pairwise (by simpa using before), dropRepeated]
  split <;> simp [dropRepeated, addOuter, covered]

theorem outermost_subset (folders : List α) :
    outermost compare same within folders ⊆ folders := by
  intro root kept
  rw [outermost, addOuter_eq_keepBy] at kept
  obtain ⟨more, sub, split⟩ := keepBy_sublist within [] (dropRepeated same
    (folders.mergeSort fun left right => (compare left right).isLE))
  rw [split, List.nil_append] at kept
  exact List.mem_mergeSort.mp ((dropRepeated_sublist same _).subset (sub.subset kept))

theorem outermost_apart (folders : List α) :
    ApartBy within (outermost compare same within folders) := by
  rw [outermost, addOuter_eq_keepBy]
  exact keepBy_apart within [] _ List.Pairwise.nil

end Outermost

theorem resolveRawRoots_eq (volumeRoot : RawPath) (scopes : List Scope) :
    resolveRawRoots volumeRoot scopes = outermost RawPath.compare RawPath.sameAs RawPath.isWithin
      (scopes.map (Scope.rawFolder volumeRoot)) := rfl

theorem resolveRawRoots_ofPath (volumeRoot : Path) (scopes : List Scope) :
    resolveRawRoots (.ofPath volumeRoot) scopes = (resolveRoots volumeRoot scopes).map .ofPath := by
  rw [resolveRawRoots_eq, Scope.rawFolder_ofPath, ← List.map_map]
  exact outermost_map RawPath.ofPath RawPath.compare_ofPath RawPath.sameAs_ofPath
    RawPath.isWithin_ofPath _

section Texts

variable {volumeRoot root : Path} {scopes : List Scope}

theorem exists_scope_of_root (kept : root ∈ resolveRoots volumeRoot scopes) :
    ∃ scope ∈ scopes, scope.folder volumeRoot = root :=
  List.mem_map.mp (outermost_subset _ kept)

theorem exists_root_above
    (rooted : ∀ scope ∈ scopes, (scope.folder volumeRoot).IsRooted) {scope : Scope}
    (named : scope ∈ scopes) :
    ∃ root ∈ resolveRoots volumeRoot scopes,
      root.components <+: (scope.folder volumeRoot).components := by
  obtain ⟨first, isFirst, same, root, kept, within⟩ :=
    exists_root volumeRoot _ (List.mem_map_of_mem named)
  have folders : resolveRoots volumeRoot ((scopes.map (Scope.folder volumeRoot)).map .directory) =
      resolveRoots volumeRoot scopes := by
    rw [resolveRoots, List.map_map, List.map_map]
    rfl
  rw [folders] at kept
  have rooted' {other : Path} (listed : ∃ scope ∈ scopes, scope.folder volumeRoot = other) :
      other.IsRooted := by
    obtain ⟨scope, member, rfl⟩ := listed
    exact rooted scope member
  obtain ⟨before, after, split, -⟩ := isFirst
  have listed := List.mem_map.mp (split ▸ List.mem_append_right before List.mem_cons_self)
  refine ⟨root, kept, ?_⟩
  rw [(Path.sameAs_iff _ _).mp same]
  exact Path.components_of_isWithin (rooted' listed) (rooted' (exists_scope_of_root kept)) within

end Texts

-- Each directory is what some text of a caller stands for.
def Accepted (scopes : List Scope) : Prop :=
  ∀ directory, .directory directory ∈ scopes →
    ∃ home raw, Path.ofScopeText home raw = .ok directory

-- The path is one of the folders, or one that goes on from it.
def IsUnder (path : RawPath) (folders : List RawPath) : Prop :=
  ∃ folder ∈ folders, folder.components <+: path.components

theorem isUnder_of_kept {volumeRoot path : RawPath} {scopes : List Scope}
    (under : IsUnder path (resolveRawRoots volumeRoot scopes)) :
    IsUnder path (scopes.map (Scope.rawFolder volumeRoot)) := by
  obtain ⟨root, kept, above⟩ := under
  exact ⟨root, outermost_subset _ kept, above⟩

theorem isUnder_kept_of_text {volumeRoot : Path} {scopes : List Scope} {path : RawPath}
    (rooted : volumeRoot.IsRooted) (accepted : Accepted scopes)
    (under : IsUnder path (scopes.map (Scope.rawFolder (.ofPath volumeRoot)))) :
    IsUnder path (resolveRawRoots (.ofPath volumeRoot) scopes) := by
  have each : ∀ scope ∈ scopes, (scope.folder volumeRoot).IsRooted := by
    intro scope named
    cases scope with
    | indexedVolume => exact rooted
    | directory directory =>
      obtain ⟨home, raw, read⟩ := accepted directory named
      exact (Path.ofScopeText_isSettled home read).isRooted
  obtain ⟨folder, listed, above⟩ := under
  rw [Scope.rawFolder_ofPath] at listed
  obtain ⟨scope, named, rfl⟩ := List.mem_map.mp listed
  obtain ⟨root, kept, higher⟩ := exists_root_above each named
  refine ⟨.ofPath root, ?_, ?_⟩
  · rw [resolveRawRoots_ofPath]
    exact List.mem_map_of_mem kept
  · refine List.IsPrefix.trans ?_ above
    rw [Function.comp_apply, RawPath.components_ofPath, RawPath.components_ofPath]
    exact higher.map _

section Reading

variable {volumeRoot : RawPath}

-- The folder that the path of a volume is read as.
def readAs (volumeRoot : RawPath) : Path :=
  ⟨Path.normalText volumeRoot.lossy.text⟩

theorem readAs_chars (volumeRoot : RawPath) :
    (readAs volumeRoot).text.toList = Path.normalChars volumeRoot.lossy.text.toList :=
  Path.normalText_toList _

theorem isWithin_readAs (volumeRoot : RawPath) :
    volumeRoot.isWithin (.ofPath (readAs volumeRoot)) = true ∧
      (RawPath.ofPath (readAs volumeRoot)).isWithin volumeRoot = true := by
  simp only [RawPath.isWithin, RawPath.lossy_ofPath, Path.isWithin_iff, readAs_chars,
    Path.normalChars_normalChars, true_or, or_true, and_self]

variable (absolute : volumeRoot.isAbsolute = true)
include absolute

theorem readAs_accepted : ∃ home raw, Path.ofScopeText home raw = .ok (readAs volumeRoot) := by
  have absolute' : volumeRoot.lossy.isAbsolute = true :=
    (RawPath.isAbsolute_lossy volumeRoot).trans absolute
  -- With a slash behind it, the text has no white space at its end.
  refine ⟨none, volumeRoot.lossy.text ++ "/", ?_⟩
  have slash : (volumeRoot.lossy.text ++ "/").toList.head? = some '/' := by
    have head : volumeRoot.lossy.text.toList.head? = some '/' := by
      simpa [Path.isAbsolute] using absolute'
    rw [String.toList_append, List.head?_append, head]
    rfl
  have whole : (Path.trimmedRest (volumeRoot.lossy.text ++ "/")).text.toList =
      volumeRoot.lossy.text.toList ++ ['/'] := by
    rw [Path.trimmedRest, String.toList_ofList, String.toList_append]
    exact List.rdropWhile_concat_neg _ _ _ (by decide)
  rw [Path.ofScopeText_slash none slash, readAs, Path.normalText, Path.normalText, whole,
    ← Path.normalChars_stem, Path.stem_concat_slash, Path.normalChars_stem]

theorem length_readAs (slashes : 0x5c ∉ volumeRoot.bytes) :
    (RawPath.ofPath (readAs volumeRoot)).components.length = volumeRoot.components.length := by
  have absolute' : volumeRoot.lossy.isAbsolute = true :=
    (RawPath.isAbsolute_lossy volumeRoot).trans absolute
  have slashed : '\\' ∉ volumeRoot.lossy.text.toList := by
    rwa [RawPath.lossy_chars, Text.mem_decodeLossy_iff _ '\\' 0x5c rfl (by decide)]
  have same : (readAs volumeRoot).components = volumeRoot.lossy.components := by
    rw [readAs, Path.components_normalText absolute', Path.slashed_eq_self _ slashed,
      Path.components_from_root absolute']
  rw [RawPath.components_ofPath, List.length_map, same, RawPath.length_components_lossy absolute]

theorem lost_beside_reading (slashes : 0x5c ∉ volumeRoot.bytes) (notText : ¬ volumeRoot.IsText)
    (under : IsUnder volumeRoot
      (resolveRawRoots volumeRoot [.directory (readAs volumeRoot), .indexedVolume])) :
    ¬ IsUnder (.ofPath (readAs volumeRoot))
      (resolveRawRoots volumeRoot [.directory (readAs volumeRoot), .indexedVolume]) := by
  rintro ⟨root', kept', above'⟩
  obtain ⟨root, kept, above⟩ := under
  have long := length_readAs absolute slashes
  have differ : (RawPath.ofPath (readAs volumeRoot)).components ≠ volumeRoot.components := by
    intro same
    rw [RawPath.components_ofPath] at same
    exact notText (RawPath.isText_of_components same.symm)
  have two {folder : RawPath} (kept : folder ∈ resolveRawRoots volumeRoot
      [.directory (readAs volumeRoot), .indexedVolume]) :
      folder = .ofPath (readAs volumeRoot) ∨ folder = volumeRoot := by
    simpa [Scope.rawFolder] using outermost_subset _ kept
  obtain rfl : root = volumeRoot := by
    refine (two kept).resolve_left ?_
    rintro rfl
    exact differ (above.eq_of_length long)
  obtain rfl : root' = .ofPath (readAs root) := by
    refine (two kept').resolve_right ?_
    rintro rfl
    exact differ (above'.eq_of_length long.symm).symm
  obtain ⟨inner, outer⟩ := isWithin_readAs root
  have same := (outermost_apart _).eq_of_rel kept kept' inner outer
  exact differ (congrArg RawPath.components same.symm)

end Reading

/-- Of the folders that a query names, those that are walked from cover no more than all of them,
and the same if the volume is not among them. Whatever is named, they cover the same exactly if the
path of the volume is text. -/
theorem roots_cover_scopes_iff (volumeRoot : RawPath) (absolute : volumeRoot.isAbsolute = true)
    (slashes : 0x5c ∉ volumeRoot.bytes) :
    (∀ scopes path, IsUnder path (resolveRawRoots volumeRoot scopes) →
        IsUnder path (scopes.map (Scope.rawFolder volumeRoot))) ∧
      (∀ scopes, Accepted scopes → .indexedVolume ∉ scopes → ∀ path,
        IsUnder path (scopes.map (Scope.rawFolder volumeRoot)) ↔
          IsUnder path (resolveRawRoots volumeRoot scopes)) ∧
      ((∀ scopes, Accepted scopes → ∀ path,
        IsUnder path (scopes.map (Scope.rawFolder volumeRoot)) ↔
          IsUnder path (resolveRawRoots volumeRoot scopes)) ↔ volumeRoot.IsText) := by
  refine ⟨fun _ _ => isUnder_of_kept, ?_, ?_, ?_⟩
  · -- The volume makes no difference where it is not named, so it may as well have a text.
    intro scopes accepted unnamed path
    have folders : scopes.map (Scope.rawFolder volumeRoot) =
        scopes.map (Scope.rawFolder (.ofPath ⟨"/"⟩)) := by
      refine List.map_congr_left fun scope named => ?_
      cases scope with
      | indexedVolume => exact absurd named unnamed
      | directory path => rfl
    have roots : resolveRawRoots volumeRoot scopes = resolveRawRoots (.ofPath ⟨"/"⟩) scopes := by
      rw [resolveRawRoots_eq, resolveRawRoots_eq, folders]
    rw [folders, roots]
    exact ⟨isUnder_kept_of_text ⟨by decide, by decide⟩ accepted, isUnder_of_kept⟩
  · intro same
    by_contra notText
    have accepted : Accepted [.directory (readAs volumeRoot), .indexedVolume] := by
      intro directory named
      obtain rfl : directory = readAs volumeRoot := by simpa using named
      exact readAs_accepted absolute
    have each (scope : Scope) (named : scope ∈ [Scope.directory (readAs volumeRoot), .indexedVolume]) :=
      (same _ accepted (scope.rawFolder volumeRoot)).mp
        ⟨_, List.mem_map_of_mem named, List.prefix_rfl⟩
    exact lost_beside_reading absolute slashes notText (each .indexedVolume (by simp))
      (each (.directory (readAs volumeRoot)) (by simp))
  · rintro ⟨text, rfl⟩ scopes accepted path
    have rooted : text.IsRooted := by
      refine ⟨(RawPath.isAbsolute_ofPath text).symm.trans absolute, ?_⟩
      rw [← RawPath.lossy_ofPath text, RawPath.lossy_chars]
      rwa [Text.mem_decodeLossy_iff _ '\\' 0x5c rfl (by decide)]
    exact ⟨isUnder_kept_of_text rooted accepted, isUnder_of_kept⟩

-- A folder of the volume is left out beside the whole volume.
example : resolveRawRoots (.ofPath ⟨"/vol/"⟩) [.indexedVolume, .directory ⟨"/vol/x/y"⟩] =
    [.ofPath ⟨"/vol/"⟩] :=
  outermost_pair (by decide +kernel) (by decide +kernel)

-- The byte that is no text makes the volume look like the folder beside it.
theorem volume_lost_beside_folder :
    let volumeRoot : RawPath := ⟨[0x2f, 0x61, 0xff]⟩
    let scopes := [Scope.directory ⟨"/a\ufffd"⟩, .indexedVolume]
    let path : RawPath := ⟨[0x2f, 0x61, 0xff, 0x2f, 0x78]⟩
    volumeRoot.isAbsolute = true ∧ 0x5c ∉ volumeRoot.bytes ∧ ¬ volumeRoot.IsText ∧ Accepted scopes ∧
      IsUnder path (scopes.map (Scope.rawFolder volumeRoot)) ∧
      ¬ IsUnder path (resolveRawRoots volumeRoot scopes) := by
  intro volumeRoot scopes path
  have absolute : volumeRoot.isAbsolute = true := by decide
  have slashes : 0x5c ∉ volumeRoot.bytes := by decide
  have accepted : Accepted scopes := by
    intro directory named
    obtain rfl : directory = ⟨"/a\ufffd"⟩ := by simpa [scopes] using named
    exact ⟨none, "/a\ufffd/", by decide +kernel⟩
  have named : IsUnder path (scopes.map (Scope.rawFolder volumeRoot)) :=
    ⟨volumeRoot, by simp [scopes, Scope.rawFolder], by decide +kernel⟩
  have lost : ¬ IsUnder path (resolveRawRoots volumeRoot scopes) := by
    have kept : resolveRawRoots volumeRoot scopes = [.ofPath ⟨"/a\ufffd"⟩] :=
      outermost_pair (by decide +kernel) (by decide +kernel)
    rw [kept]
    rintro ⟨root, member, above⟩
    cases List.mem_singleton.mp member
    revert above
    decide +kernel
  refine ⟨absolute, slashes, fun text => lost ?_, accepted, named, lost⟩
  obtain ⟨-, -, same⟩ := roots_cover_scopes_iff volumeRoot absolute slashes
  exact (same.mpr text scopes accepted path).mp named

end WalkIndex

end FileSearch

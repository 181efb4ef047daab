import FileSearch.Proofs.Path.Joining
import FileSearch.Proofs.Path.Order

set_option autoImplicit false

namespace FileSearch.Path

theorem stem_slash_begins (chars : List Char) : stem chars ++ ['/'] <+: chars ++ ['/'] := by
  induction chars using List.reverseRecOn with
  | nil => exact List.prefix_rfl
  | append_singleton front c ih =>
    by_cases slash : c = '/'
    · rw [slash, stem_concat_slash]
      exact ih.trans (List.prefix_append _ _)
    · have whole : stem (front ++ [c]) = front ++ [c] := stem_of_unclosed (by simpa using slash)
      simp [whole]

theorem stem_append_slash (chars more : List Char) :
    stem (chars ++ '/' :: more) = stem chars ∨
      stem chars ++ ['/'] <+: stem (chars ++ '/' :: more) := by
  induction more using List.reverseRecOn with
  | nil => exact .inl (stem_concat_slash chars)
  | append_singleton more c ih =>
    have split : chars ++ '/' :: (more ++ [c]) = (chars ++ '/' :: more) ++ [c] := by simp
    by_cases slash : c = '/'
    · rwa [split, slash, stem_concat_slash]
    · have unclosed : (chars ++ '/' :: more ++ [c]).getLast? ≠ some '/' := by
        rw [List.getLast?_concat]
        exact fun last => slash (Option.some.inj last)
      rw [split, stem_of_unclosed unclosed]
      exact .inr ((stem_slash_begins chars).trans ⟨more ++ [c], by simp⟩)

theorem isWithin_of_append {inner outer : Path} {more : List Char}
    (split : stem inner.text.toList = stem outer.text.toList ++ '/' :: more) :
    inner.isWithin outer = true := by
  rw [isWithin_iff, ← normalChars_stem inner.text.toList, split,
    ← normalChars_stem outer.text.toList]
  generalize stem outer.text.toList = chars
  have slashes : slashed (chars ++ '/' :: more) = slashed chars ++ '/' :: slashed more := by
    simp [slashed]
  rw [normalChars_eq, normalChars_eq, slashes]
  by_cases root : stem (slashed chars) = []
  · exact .inl (if_pos root)
  · rcases stem_append_slash (slashed chars) (slashed more) with same | longer
    · exact .inr (.inl (by rw [same]))
    · have some : stem (slashed chars ++ '/' :: slashed more) ≠ [] := by
        intro none
        simp [none] at longer
      rw [if_neg root, if_neg some]
      exact .inr (.inr longer)

theorem isWithin_of_components {inner outer : Path} {names : List String} (plain : inner.IsPlain)
    (plain' : outer.IsPlain) (named : ∀ name ∈ names, IsFileName name)
    (longer : inner.components = outer.components ++ names.map .named) :
    inner.isWithin outer = true := by
  rcases eq_or_ne names [] with rfl | some
  · have same : inner.sameAs outer = true := by simpa [sameAs] using longer
    exact (isWithin_iff _ _).mpr (.inr (.inl (normalChars_eq_of_sameAs plain plain' same)))
  · -- As both are plain, the names that the one has more are what its text goes on with.
    have each : (names.map String.toList).filterMap Component.ofPart? = names.map .named := by
      rw [List.filterMap_map, List.filterMap_eq_map_iff_forall_eq_some]
      exact fun name member => (named name member).ofPart?
    have parted : ∀ part ∈ names.map String.toList, (Component.ofPart? part).isSome := by
      simpa using fun name member => by simp [(named name member).ofPart?]
    rw [components_of_absolute plain.absolute, components_of_absolute plain'.absolute,
      List.cons_append, List.cons.injEq, ← each, ← List.filterMap_append] at longer
    have tails := Component.named_injective plain.parted
      (fun part member => (List.mem_append.mp member).elim (plain'.parted part) (parted part))
      longer.2
    have joined : parts (['/'].intercalate (names.map String.toList)) = names.map String.toList := by
      rw [parts_eq, List.splitOn_intercalate]
      · simpa using fun name member => (named name member).1
      · simpa using some
    have split : stem inner.text.toList =
        stem outer.text.toList ++ '/' :: ['/'].intercalate (names.map String.toList) := by
      apply parts_injective
      rw [parts_append_slash, joined, parts_stem_of_absolute plain.absolute, tails,
        parts_stem_of_absolute plain'.absolute]
      rfl
    exact isWithin_of_append split

theorem normalChars_of_rooted {path : Path} (rooted : path.IsRooted) :
    normalChars path.text.toList =
      if stem path.text.toList = [] then ['/'] else stem path.text.toList := by
  rw [normalChars_eq, slashed_eq_self _ rooted.slashed]

theorem stem_of_isWithin {inner outer : Path} (rooted : inner.IsRooted)
    (rooted' : outer.IsRooted) (within : inner.isWithin outer = true) :
    stem outer.text.toList = [] ∨ stem inner.text.toList = stem outer.text.toList ∨
      stem outer.text.toList ++ ['/'] <+: stem inner.text.toList := by
  rw [isWithin_iff, normalChars_of_rooted rooted, normalChars_of_rooted rooted'] at within
  refine or_iff_not_imp_left.mpr fun some => ?_
  rw [if_neg some] at within
  have notRoot : stem outer.text.toList ≠ ['/'] := by
    intro root
    exact getLast?_stem outer.text.toList (by rw [root]; rfl)
  split at within
  next none =>
    rcases within with root | root | below
    · exact absurd root notRoot
    · exact absurd root.symm notRoot
    · have short := below.length_le
      have long := List.length_pos_of_ne_nil some
      simp only [List.length_append, List.length_singleton] at short
      omega
  next => exact within.resolve_left notRoot

theorem components_of_isWithin {inner outer : Path} (rooted : inner.IsRooted)
    (rooted' : outer.IsRooted) (within : inner.isWithin outer = true) :
    outer.components <+: inner.components := by
  rw [components_of_absolute rooted.absolute, components_of_absolute rooted'.absolute]
  rcases stem_of_isWithin rooted rooted' within with none | same | ⟨more, longer⟩
  · simp [none, parts]
  · simp [same]
  · have split := parts_append_slash (stem outer.text.toList) more
    rw [List.append_cons, longer, parts_stem_of_absolute rooted'.absolute, List.cons_append]
      at split
    rw [split, List.tail_cons, List.filterMap_append]
    exact ⟨_, rfl⟩

theorem names_of_absolute {path : Path} (absolute : path.isAbsolute = true)
    (down : .parent ∉ path.components) :
    ∃ names : List String, path.components = .root :: names.map .named := by
  have split := components_of_absolute absolute
  rw [split] at down
  rw [split]
  refine ⟨((parts (stem path.text.toList)).tail.filterMap Component.ofPart?).map Component.label, ?_⟩
  rw [List.map_map, List.cons.injEq, eq_self, true_and, eq_comm]
  refine (List.map_congr_left fun component member => ?_).trans (List.map_id' _)
  obtain ⟨part, -, made⟩ := List.mem_filterMap.mp member
  rw [Component.ofPart?] at made
  split at made
  next => cases made
  next =>
    split at made
    next =>
      cases made
      exact absurd (List.mem_cons_of_mem _ member) down
    next =>
      cases made
      rfl

end FileSearch.Path

import FileSearch.Proofs.Path.Normal

set_option autoImplicit false

namespace FileSearch

namespace Component

theorem ofPart?_injective {left right : List Char} {component : Component}
    (made : ofPart? left = some component) (made' : ofPart? right = some component) :
    left = right := by
  simp only [ofPart?] at made made'
  split at made <;> split at made' <;> grind [String.ofList_injective]

theorem named_injective {left right : List (List Char)}
    (each : ∀ part ∈ left, (ofPart? part).isSome) (each' : ∀ part ∈ right, (ofPart? part).isSome)
    (same : left.filterMap ofPart? = right.filterMap ofPart?) : left = right := by
  induction left generalizing right with
  | nil =>
    cases right with
    | nil => rfl
    | cons part' rest' =>
      obtain ⟨component', made'⟩ := Option.isSome_iff_exists.mp (each' part' List.mem_cons_self)
      simp [made'] at same
  | cons part rest ih =>
    obtain ⟨component, made⟩ := Option.isSome_iff_exists.mp (each part List.mem_cons_self)
    cases right with
    | nil => simp [made] at same
    | cons part' rest' =>
      obtain ⟨component', made'⟩ := Option.isSome_iff_exists.mp (each' part' List.mem_cons_self)
      simp only [List.filterMap_cons, made, made', List.cons.injEq] at same
      obtain ⟨rfl, tails⟩ := same
      have rests : rest = rest' := ih (List.forall_mem_of_forall_mem_cons each)
        (List.forall_mem_of_forall_mem_cons each') tails
      rw [ofPart?_injective made made', rests]

end Component

namespace Path

theorem parts_eq (chars : List Char) : parts chars = chars.splitOn '/' := by
  induction chars with
  | nil => rfl
  | cons c rest ih =>
    rw [parts, ih, List.splitOn_cons_eq_if_modifyHead]
    by_cases slash : c = '/'
    · simp [slash]
    · cases split : rest.splitOn '/' with
      | nil => exact absurd split (List.splitOn_ne_nil _ _)
      | cons first others => simp [slash]

theorem parts_injective : Function.Injective parts := by
  have joined (chars : List Char) : ['/'].intercalate (parts chars) = chars := by
    rw [parts_eq, List.intercalate_splitOn]
  exact Function.LeftInverse.injective joined

theorem stem_concat_slash (chars : List Char) : stem (chars ++ ['/']) = stem chars :=
  List.rdropWhile_concat_pos _ _ _ (by simp)

theorem stem_invariant {α : Type} (f : List Char → α)
    (closing : ∀ chars, f (chars ++ ['/']) = f chars) (chars : List Char) :
    f (stem chars) = f chars := by
  induction chars using List.reverseRecOn with
  | nil => rfl
  | append_singleton chars c ih =>
    by_cases slash : c = '/'
    · rw [slash, stem_concat_slash, ih, closing]
    · rw [stem, List.rdropWhile_concat_neg _ _ _ (by simpa using slash)]

theorem named_parts_stem (chars : List Char) :
    (parts (stem chars)).filterMap Component.ofPart? =
      (parts chars).filterMap Component.ofPart? := by
  refine stem_invariant (fun chars => (parts chars).filterMap Component.ofPart?) ?_ chars
  intro chars
  simp only [parts_eq, List.splitOn_append_cons_self]
  simp [Component.ofPart?]

theorem normalChars_stem (chars : List Char) : normalChars (stem chars) = normalChars chars := by
  refine stem_invariant normalChars ?_ chars
  intro chars
  have ends : slashed (chars ++ ['/']) = slashed chars ++ ['/'] := by simp [slashed]
  rw [normalChars_eq, normalChars_eq, ends, stem_concat_slash]

-- An absolute path without dots for components and without repeated slashes, but for those at the
-- end.
structure IsPlain (path : Path) : Prop where
  absolute : path.isAbsolute = true
  parted : ∀ part ∈ (parts (stem path.text.toList)).tail, (Component.ofPart? part).isSome

theorem parts_stem_of_absolute {path : Path} (absolute : path.isAbsolute = true) :
    parts (stem path.text.toList) = [] :: (parts (stem path.text.toList)).tail := by
  have head : path.text.toList.head? = some '/' := by simpa [isAbsolute] using absolute
  cases stemmed : stem path.text.toList with
  | nil => rfl
  | cons c rest =>
    have first := head?_stem path.text.toList (by simp [stemmed])
    rw [stemmed, head] at first
    cases first
    rfl

theorem components_of_absolute {path : Path} (absolute : path.isAbsolute = true) :
    path.components =
      .root :: (parts (stem path.text.toList)).tail.filterMap Component.ofPart? := by
  have named := named_parts_stem path.text.toList
  rw [parts_stem_of_absolute absolute] at named
  simp [components, absolute, ← named, Component.ofPart?]

theorem stem_eq_of_components {left right : Path} (plain : left.IsPlain) (plain' : right.IsPlain)
    (same : left.components = right.components) :
    stem left.text.toList = stem right.text.toList := by
  rw [components_of_absolute plain.absolute, components_of_absolute plain'.absolute,
    List.cons.injEq] at same
  have tails := Component.named_injective plain.parted plain'.parted same.2
  apply parts_injective
  rw [parts_stem_of_absolute plain.absolute, parts_stem_of_absolute plain'.absolute, tails]

theorem normalChars_eq_of_sameAs {left right : Path} (plain : left.IsPlain) (plain' : right.IsPlain)
    (same : left.sameAs right = true) :
    normalChars left.text.toList = normalChars right.text.toList := by
  have components : left.components = right.components := by simpa [sameAs] using same
  rw [← normalChars_stem, stem_eq_of_components plain plain' components, normalChars_stem]

end Path

end FileSearch

import FileSearch.Path.Scope
import FileSearch.Proofs.Outcome
import FileSearch.Proofs.Path.Distinct
import Mathlib.Data.List.DropRight

set_option autoImplicit false

namespace FileSearch.Path

open Outcome

section Characters

variable (chars : List Char)

-- Slashes for backslashes.
def slashed : List Char :=
  chars.map fun c => if c = '\\' then '/' else c

-- What stands in front of the slashes at the end.
def stem : List Char :=
  chars.rdropWhile (· = '/')

theorem slashed_eq_self (slashes : '\\' ∉ chars) : slashed chars = chars := by
  have each : ∀ c ∈ chars, (if c = '\\' then '/' else c) = c := by
    intro c member
    rw [if_neg]
    rintro rfl
    exact slashes member
  simpa [slashed] using List.map_congr_left (g := id) each

theorem head?_stem (some : stem chars ≠ []) : (stem chars).head? = chars.head? := by
  obtain ⟨rest, split⟩ := List.rdropWhile_prefix (· = '/') chars
  conv_rhs => rw [← split]
  exact (List.head?_append_of_ne_nil _ some).symm

theorem getLast?_stem : (stem chars).getLast? ≠ some '/' := by
  rw [stem]
  by_cases some : chars.rdropWhile (· = '/') = []
  · simp [some]
  · simpa [List.getLast?_eq_some_getLast some] using List.rdropWhile_last_not (· = '/') chars some

theorem normalChars_eq :
    normalChars chars = if stem (slashed chars) = [] then ['/'] else stem (slashed chars) := by
  simp [normalChars, slashed, stem, List.rdropWhile, List.isEmpty_iff]

theorem normalChars_ne_nil : normalChars chars ≠ [] := by
  rw [normalChars_eq]
  split
  next => exact List.cons_ne_nil _ _
  next some => exact some

theorem backslash_notMem_normalChars : '\\' ∉ normalChars chars := by
  have slashes : '\\' ∉ slashed chars := by
    intro member
    obtain ⟨c, -, made⟩ := List.mem_map.mp member
    split at made <;> simp_all
  rw [normalChars_eq]
  split
  next => decide
  next => exact fun member => slashes ((List.rdropWhile_prefix _ _).subset member)

theorem normalChars_unclosed (closed : (normalChars chars).getLast? = some '/') :
    normalChars chars = ['/'] := by
  rw [normalChars_eq] at closed ⊢
  split at closed
  next none => rw [if_pos none]
  next => exact absurd closed (getLast?_stem _)

theorem head?_normalChars (absolute : chars.head? = some '/') :
    (normalChars chars).head? = some '/' := by
  have head : (slashed chars).head? = some '/' := by simp [slashed, absolute]
  rw [normalChars_eq]
  split
  next => rfl
  next some => rw [head?_stem _ some, head]

end Characters

section Within

variable (path other outer : Path)

theorem isWithin_iff :
    path.isWithin outer = true ↔
      normalChars outer.text.toList = ['/'] ∨
        normalChars path.text.toList = normalChars outer.text.toList ∨
        normalChars outer.text.toList ++ ['/'] <+: normalChars path.text.toList := by
  simp [isWithin, or_assoc]

theorem isWithin_self : path.isWithin path = true :=
  (isWithin_iff path path).mpr (.inr (.inl rfl))

theorem isWithin_trans (inner : path.isWithin other = true) (within : other.isWithin outer = true) :
    path.isWithin outer = true := by
  rw [isWithin_iff] at inner within ⊢
  rcases within with root | same | below
  · exact .inl root
  · rwa [same] at inner
  · rcases inner with root | same | deeper
    · -- Nothing lies above the root but the root.
      rw [root] at below
      have short := below.length_le
      have some := List.length_pos_of_ne_nil (normalChars_ne_nil outer.text.toList)
      simp only [List.length_append, List.length_singleton] at short
      omega
    · exact .inr (.inr (same ▸ below))
    · exact .inr (.inr (below.trans ((List.prefix_append _ _).trans deeper)))

end Within

-- An absolute path with slashes only and none at the end but that of the root.
structure IsSettled (path : Path) : Prop where
  absolute : path.isAbsolute = true
  slashed : '\\' ∉ path.text.toList
  unclosed : path.text.toList.getLast? = some '/' → path.text = "/"

-- An absolute path with slashes only, wherever they stand.
structure IsRooted (path : Path) : Prop where
  absolute : path.isAbsolute = true
  slashed : '\\' ∉ path.text.toList

theorem IsSettled.isRooted {path : Path} (settled : path.IsSettled) : path.IsRooted :=
  ⟨settled.absolute, settled.slashed⟩

-- Settled paths, no two of which are the same.
structure AreSettled (paths : List Path) : Prop where
  each : ∀ path ∈ paths, path.IsSettled
  apart : Apart paths

theorem normalText_toList (text : String) : (normalText text).toList = normalChars text.toList :=
  String.toList_ofList

theorem normalText_isSettled (path : Path) (absolute : path.isAbsolute = true) :
    IsSettled ⟨normalText path.text⟩ := by
  have chars := normalText_toList path.text
  constructor
  · have head : path.text.toList.head? = some '/' := by simpa [isAbsolute] using absolute
    simpa [isAbsolute, chars] using head?_normalChars _ head
  · simpa [chars] using backslash_notMem_normalChars path.text.toList
  · intro closed
    rw [chars] at closed
    rw [normalText, normalChars_unclosed _ closed]

variable (home : Option String)

theorem ofScopeText_isSettled {raw : String} {path : Path}
    (accepted : ofScopeText home raw = .ok path) : path.IsSettled := by
  rw [ofScopeText] at accepted
  split at accepted
  · cases accepted
  · obtain ⟨expanded, -, made⟩ := bind_ok_iff.mp accepted
    split at made
    next absolute =>
      cases made
      exact normalText_isSettled expanded absolute
    next => cases made

theorem ofEachScopeText_isSettled {texts : List String} {paths : List Path}
    (accepted : ofEachScopeText home texts = .ok paths) : ∀ path ∈ paths, path.IsSettled := by
  induction texts generalizing paths with
  | nil =>
    cases accepted
    simp
  | cons text rest ih =>
    simp only [ofEachScopeText, bind_ok_iff] at accepted
    obtain ⟨first, head, others, tail, made⟩ := accepted
    cases made
    exact List.forall_mem_cons.mpr ⟨ofScopeText_isSettled home head, ih tail⟩

theorem ofScopeTexts_areSettled {texts : List String} {paths : List Path}
    (accepted : ofScopeTexts home texts = .ok paths) : AreSettled paths := by
  obtain ⟨each, read, rfl⟩ := map_ok_iff.mp accepted
  exact ⟨fun path member => ofEachScopeText_isSettled home read path (mem_of_mem_distinct member),
    distinct_apart each⟩

end FileSearch.Path

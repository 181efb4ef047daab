import FileSearch.Index.Tree
import FileSearch.Proofs.Path.Spelling

set_option autoImplicit false

namespace FileSearch

-- What a file in a folder can be called.
def IsFileName (name : String) : Prop :=
  '/' ∉ name.toList ∧ name ≠ "" ∧ name ≠ "." ∧ name ≠ ".."

instance (name : String) : Decidable (IsFileName name) :=
  inferInstanceAs (Decidable (_ ∧ _))

namespace IsFileName

variable {name : String} (named : IsFileName name)
include named

theorem ofPart? : Component.ofPart? name.toList = some (.named name) := by
  obtain ⟨-, some, notDot, notDots⟩ := named
  have some' : name.toList ≠ [] := fun none => some (String.toList_injective none)
  have notDot' : name.toList ≠ ['.'] := fun dot => notDot (String.toList_injective dot)
  have notDots' : name.toList ≠ ['.', '.'] := fun dots => notDots (String.toList_injective dots)
  simp [Component.ofPart?, some', notDot', notDots']

theorem parts : Path.parts name.toList = [name.toList] := by
  rw [Path.parts_eq, List.splitOn_eq_singleton named.1]

theorem relative : Path.isAbsolute ⟨name⟩ = false := by
  simpa [Path.isAbsolute] using fun slash => named.1 (List.mem_of_head? slash)

theorem toList_ne_nil : name.toList ≠ [] := fun none => named.2.1 (String.toList_injective none)

end IsFileName

namespace Path

section Closing

variable (chars more : List Char)

-- The characters of a path with a slash at the end.
def closed : List Char :=
  if chars.getLast? = some '/' then chars else chars ++ ['/']

theorem parts_append_slash : parts (chars ++ '/' :: more) = parts chars ++ parts more := by
  simp only [parts_eq, List.splitOn_append_cons_self]

theorem closed_eq : ∃ front, closed chars = front ++ ['/'] ∧ (chars = front ∨ chars = front ++ ['/']) := by
  rw [closed]
  split
  next slash =>
    obtain ⟨front, split⟩ := List.getLast?_eq_some_iff.mp slash
    exact ⟨front, split, .inr split⟩
  next => exact ⟨chars, rfl, .inl rfl⟩

theorem named_parts_closed :
    (parts (closed chars ++ more)).filterMap Component.ofPart? =
      (parts chars).filterMap Component.ofPart? ++ (parts more).filterMap Component.ofPart? := by
  obtain ⟨front, whole, rfl | rfl⟩ := closed_eq chars
  · rw [whole, List.append_assoc, List.singleton_append, parts_append_slash, List.filterMap_append]
  · rw [whole, List.append_assoc, List.singleton_append, parts_append_slash, parts_append_slash]
    simp [parts, Component.ofPart?]

theorem parts_getLast?_closed (name : List Char) (one : parts name = [name]) :
    (parts (closed chars ++ name)).getLast? = some name := by
  obtain ⟨front, whole, -⟩ := closed_eq chars
  rw [whole, List.append_assoc, List.singleton_append, parts_append_slash, one,
    List.getLast?_concat]

end Closing

section Relative

variable {path inner : Path} (absolute : path.isAbsolute = true) (relative : inner.isAbsolute = false)
include absolute relative

theorem join_of_relative :
    path.join inner =
      if path.text.toList.getLast? = some '/' then ⟨path.text ++ inner.text⟩
      else ⟨path.text ++ "/" ++ inner.text⟩ := by
  have some : path.text.isEmpty = false := by
    rw [String.isEmpty_eq_false_iff]
    rintro none
    simp [isAbsolute, none] at absolute
  rw [join, relative, some]
  rfl

theorem chars_join : (path.join inner).text.toList = closed path.text.toList ++ inner.text.toList := by
  rw [join_of_relative absolute relative, closed]
  split <;> simp

theorem isAbsolute_join : (path.join inner).isAbsolute = true := by
  have head : path.text.toList.head? = some '/' := by simpa [isAbsolute] using absolute
  rw [isAbsolute, chars_join absolute relative, closed]
  split <;> simp [head]

end Relative

section Joining

variable {path : Path} {name : String}

theorem join_eq (absolute : path.isAbsolute = true) (named : IsFileName name) :
    path.join ⟨name⟩ =
      if path.text.toList.getLast? = some '/' then ⟨path.text ++ name⟩
      else ⟨path.text ++ "/" ++ name⟩ :=
  join_of_relative absolute named.relative

theorem join_chars (absolute : path.isAbsolute = true) (named : IsFileName name) :
    (path.join ⟨name⟩).text.toList = closed path.text.toList ++ name.toList :=
  chars_join absolute named.relative

theorem join_absolute (absolute : path.isAbsolute = true) (named : IsFileName name) :
    (path.join ⟨name⟩).isAbsolute = true :=
  isAbsolute_join absolute named.relative

theorem join_components (absolute : path.isAbsolute = true) (named : IsFileName name) :
    (path.join ⟨name⟩).components = path.components ++ [.named name] := by
  have parts := named_parts_closed path.text.toList name.toList
  rw [named.parts, List.filterMap_cons, named.ofPart?] at parts
  simp [components, join_absolute absolute named, absolute, join_chars absolute named, parts]

theorem join_steps (absolute : path.isAbsolute = true) (named : IsFileName name) :
    (path.join ⟨name⟩).steps = (path.join ⟨name⟩).components := by
  have last := parts_getLast?_closed path.text.toList name.toList named.parts
  have notDot : name.toList ≠ ['.'] := fun dot => named.2.2.1 (String.toList_injective dot)
  rw [steps, join_chars absolute named, last]
  split
  next none => exact absurd (Option.some.inj none) named.toList_ne_nil
  next dot => exact absurd (Option.some.inj dot) notDot
  next => rfl

theorem fits_of_join (absolute : path.isAbsolute = true) (named : IsFileName name)
    (fits : (path.join ⟨name⟩).isTooLong = false) : path.isTooLong = false := by
  have longer : path.text.utf8ByteSize ≤ (path.join ⟨name⟩).text.utf8ByteSize := by
    rw [join_eq absolute named]
    split <;> simp only [String.utf8ByteSize_append] <;> omega
  simp only [isTooLong, decide_eq_false_iff_not, not_lt] at fits ⊢
  exact longer.trans fits

end Joining

section Below

-- The path that a chain of names leads to, each in the folder before it.
def below (path : Path) (names : List String) : Path :=
  names.foldl (fun path name => path.join ⟨name⟩) path

theorem below_concat (path : Path) (names : List String) (name : String) :
    path.below (names ++ [name]) = (path.below names).join ⟨name⟩ := by
  rw [below, below, List.foldl_append, List.foldl_cons, List.foldl_nil]

theorem below_append (path : Path) (names more : List String) :
    path.below (names ++ more) = (path.below names).below more := List.foldl_append

variable {path : Path} {names : List String} (absolute : path.isAbsolute = true)
  (named : ∀ name ∈ names, IsFileName name)
include absolute named

theorem below_absolute : (path.below names).isAbsolute = true := by
  induction names generalizing path with
  | nil => exact absolute
  | cons name rest ih =>
    obtain ⟨first, others⟩ := List.forall_mem_cons.mp named
    exact ih (join_absolute absolute first) others

theorem below_components : (path.below names).components = path.components ++ names.map .named := by
  induction names generalizing path with
  | nil => exact (List.append_nil _).symm
  | cons name rest ih =>
    obtain ⟨first, others⟩ := List.forall_mem_cons.mp named
    have deeper := ih (join_absolute absolute first) others
    rwa [join_components absolute first, List.append_assoc] at deeper

theorem fits_of_below (fits : (path.below names).isTooLong = false) : path.isTooLong = false := by
  induction names generalizing path with
  | nil => exact fits
  | cons name rest ih =>
    obtain ⟨first, others⟩ := List.forall_mem_cons.mp named
    exact fits_of_join absolute first (ih (join_absolute absolute first) others fits)

end Below

section Tidy

-- A plain path with at most one slash at the end.
structure IsTidy (path : Path) : Prop extends path.IsPlain where
  single : ¬ ['/', '/'] <:+ path.text.toList

theorem stem_of_unclosed {chars : List Char} (unclosed : chars.getLast? ≠ some '/') :
    stem chars = chars := by
  cases chars using List.reverseRecOn with
  | nil => rfl
  | append_singleton front c =>
    exact List.rdropWhile_concat_neg _ _ _ (by simpa using unclosed)

theorem closed_of_single {chars : List Char} (single : ¬ ['/', '/'] <:+ chars) :
    closed chars = stem chars ++ ['/'] := by
  rw [closed]
  split
  next slash =>
    obtain ⟨front, rfl⟩ := List.getLast?_eq_some_iff.mp slash
    have unclosed : front.getLast? ≠ some '/' := by
      intro twice
      obtain ⟨start, rfl⟩ := List.getLast?_eq_some_iff.mp twice
      exact single ⟨start, by simp⟩
    rw [stem_concat_slash, stem_of_unclosed unclosed]
  next unclosed => rw [stem_of_unclosed unclosed]

variable {path left right : Path} {name : String} {names : List String}

theorem join_unclosed (absolute : path.isAbsolute = true) (named : IsFileName name) :
    (path.join ⟨name⟩).text.toList.getLast? ≠ some '/' := by
  rw [join_chars absolute named, List.getLast?_append_of_ne_nil _ named.toList_ne_nil]
  exact fun slash => named.1 (List.mem_of_getLast? slash)

theorem IsTidy.join (tidy : path.IsTidy) (named : IsFileName name) :
    (path.join ⟨name⟩).IsTidy := by
  have chars := join_chars tidy.absolute named
  have unclosed := join_unclosed tidy.absolute named
  refine ⟨⟨join_absolute tidy.absolute named, ?_⟩, fun twice => unclosed ?_⟩
  · have split := parts_stem_of_absolute tidy.absolute
    rw [stem_of_unclosed unclosed, chars, closed_of_single tidy.single, List.append_assoc,
      List.singleton_append, parts_append_slash, named.parts, split]
    simpa [or_imp, forall_and, named.ofPart?] using tidy.parted
  · obtain ⟨start, split⟩ := twice
    simp [← split]

theorem IsTidy.below (tidy : path.IsTidy) (named : ∀ name ∈ names, IsFileName name) :
    (path.below names).IsTidy := by
  induction names generalizing path with
  | nil => exact tidy
  | cons name rest ih =>
    obtain ⟨first, others⟩ := List.forall_mem_cons.mp named
    exact ih (tidy.join first) others

theorem IsTidy.join_eq (tidy : left.IsTidy) (tidy' : right.IsTidy)
    (same : left.components = right.components) (named : IsFileName name) :
    left.join ⟨name⟩ = right.join ⟨name⟩ := by
  have stems := stem_eq_of_components tidy.toIsPlain tidy'.toIsPlain same
  have texts : (left.join ⟨name⟩).text.toList = (right.join ⟨name⟩).text.toList := by
    rw [join_chars tidy.absolute named, join_chars tidy'.absolute named,
      closed_of_single tidy.single, closed_of_single tidy'.single, stems]
  exact congrArg Path.mk (String.toList_injective texts)

theorem IsTidy.below_join_eq (tidy : left.IsTidy) (tidy' : right.IsTidy)
    (same : left.components = right.components) (named : ∀ name ∈ names, IsFileName name)
    (named' : IsFileName name) :
    (left.below names).join ⟨name⟩ = (right.below names).join ⟨name⟩ := by
  refine (tidy.below named).join_eq (tidy'.below named) ?_ named'
  rw [below_components tidy.absolute named, below_components tidy'.absolute named, same]

theorem IsSettled.isTidy (settled : path.IsSettled) (plain : path.IsPlain) : path.IsTidy := by
  refine ⟨plain, fun twice => ?_⟩
  have ends : path.text.toList.getLast? = some '/' := by
    obtain ⟨start, split⟩ := twice
    simp [← split]
  have short := twice.length_le
  simp [settled.unclosed ends] at short

theorem fits_of_longer (longer : left.text.toList <+: right.text.toList)
    (fits : right.isTooLong = false) : left.isTooLong = false := by
  obtain ⟨more, split⟩ := longer
  have whole : right.text = left.text ++ String.ofList more := by
    apply String.toList_injective
    rw [String.toList_append, String.toList_ofList, split]
  simp only [isTooLong, decide_eq_false_iff_not, not_lt, whole, String.utf8ByteSize_append] at *
  omega

theorem IsTidy.fits_join (tidy : left.IsTidy) (tidy' : right.IsTidy) (named : IsFileName name)
    (same : (left.join ⟨name⟩).components = right.components) (fits : right.isTooLong = false) :
    (left.join ⟨name⟩).isTooLong = false := by
  refine fits_of_longer ?_ fits
  rw [← stem_of_unclosed (join_unclosed tidy.absolute named),
    stem_eq_of_components (tidy.join named).toIsPlain tidy'.toIsPlain same]
  exact List.rdropWhile_prefix _ _

theorem IsTidy.fits_below (tidy : left.IsTidy) (tidy' : right.IsTidy)
    (named : ∀ name ∈ names, IsFileName name)
    (longer : right.components = left.components ++ names.map .named)
    (short : left.isTooLong = false) (fits : right.isTooLong = false) :
    (left.below names).isTooLong = false := by
  have same := (below_components tidy.absolute named).trans longer.symm
  cases names using List.reverseRecOn with
  | nil => exact short
  | append_singleton names last =>
    obtain ⟨named, named'⟩ := List.forall_mem_append.mp named
    rw [below_concat] at same ⊢
    exact (tidy.below named).fits_join tidy' (named' last List.mem_cons_self) same fits

end Tidy

end Path

end FileSearch

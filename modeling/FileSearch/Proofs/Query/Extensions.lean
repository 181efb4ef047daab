import FileSearch.Proofs.Path.Keeping
import FileSearch.Proofs.Query.Literal
import FileSearch.Proofs.Text.AsciiCase

set_option autoImplicit false

namespace FileSearch.Filter

-- White space behind the dots that a text starts with.
def HasBlankBehindDots (raw : String) : Prop :=
  ∃ count c rest, Text.trim raw.toList = List.replicate (count + 1) '.' ++ c :: rest ∧
    Text.isBlank c = true

def StartsBlank (text : String) : Prop :=
  ∃ c ∈ text.toList.head?, Text.isBlank c = true

-- Values of which cleaning leaves nothing that could be cleaned once more.
def SettleAtOnce (raw : List String) : Prop :=
  ∀ value ∈ raw, ¬ HasBlankBehindDots value

section Cleaning

variable (raw : String)

theorem startsBlank_clean_iff : StartsBlank (cleanExtension raw) ↔ HasBlankBehindDots raw := by
  constructor
  · rintro ⟨c, begins, blank⟩
    obtain ⟨rest, left⟩ := List.head?_eq_some_iff.mp begins
    obtain ⟨dots, split⟩ := exists_dots raw
    rw [left] at split
    -- Without dots the white space would stand in front, where trimming leaves none.
    cases dots with
    | zero =>
      have shown := Text.head?_trim raw.toList c (by simp [split])
      simp [shown] at blank
    | succ count => exact ⟨count, c, rest, split, blank⟩
  · rintro ⟨count, c, rest, split, blank⟩
    have other : c ≠ '.' := by
      rintro rfl
      exact absurd blank (by decide)
    refine ⟨c, ?_, blank⟩
    rw [cleanExtension_toList, split, List.dropWhile_append_of_pos (by simp)]
    simp [other]

theorem clean_iff (some : cleanExtension raw ≠ "") :
    IsCleanExtension (cleanExtension raw) ↔ ¬ StartsBlank (cleanExtension raw) := by
  constructor
  · rintro clean ⟨c, begins, blank⟩
    have trim : Text.trim (cleanExtension raw).toList = (cleanExtension raw).toList := by
      simpa [Text.trimmed] using congrArg String.toList clean.trim
    have shown := Text.head?_trim (cleanExtension raw).toList
    rw [trim] at shown
    simp [shown c begins] at blank
  · intro shown
    have begins : ∀ c ∈ (cleanExtension raw).toList.head?, Text.isBlank c = false := by
      intro c first
      exact Bool.eq_false_iff.mpr fun blank => shown ⟨c, first, blank⟩
    have trim := Text.trim_eq_self _ begins (getLast?_cleanExtension raw)
    exact ⟨some, by rw [Text.trimmed, trim, String.ofList_toList], cleanExtension_dotless raw⟩

end Cleaning

theorem cleanExtension_eq_self_iff (extension : String) (some : extension ≠ "") :
    cleanExtension extension = extension ↔ IsCleanExtension extension := by
  constructor
  · intro same
    -- Trimming alone takes nothing away, since nothing is taken away in all.
    have inner : extension.toList.Sublist (Text.trim extension.toList) := by
      have left := List.dropWhile_sublist (l := Text.trim extension.toList) (· = '.')
      rwa [← cleanExtension_toList, same] at left
    have trim : Text.trim extension.toList = extension.toList :=
      (Text.trim_sublist _).antisymm inner
    have dotless := cleanExtension_dotless extension
    rw [same] at dotless
    exact ⟨some, by rw [Text.trimmed, trim, String.ofList_toList], dotless⟩
  · exact cleanExtension_clean extension

-- What is left of the extensions in a list, with repeats.
def cleaned (extensions : List String) : List String :=
  (extensions.map cleanExtension).filter fun extension => !extension.isEmpty

-- What is stored of the extensions in a list.
def stored (raw : List String) : List String :=
  addExtensions [] raw

-- One test for each extension, in order, and no condition for none of them.
def tests (extensions : List String) : Option Predicate :=
  if extensions = [] then none
  else some (.any (extensions.map fun extension => .endsWith .fileName ("." ++ extension)))

theorem cleaned_sublist (extensions : List String) :
    (cleaned extensions).Sublist (extensions.map cleanExtension) :=
  List.filter_sublist

theorem map_cleanExtension_iff (extensions : List String) :
    extensions.map cleanExtension = extensions ↔
      ∀ extension ∈ extensions, cleanExtension extension = extension := by
  simpa using List.map_eq_map_iff (f := cleanExtension) (g := id) (l := extensions)

theorem cleaned_of_sublist (extensions : List String)
    (within : extensions.Sublist (cleaned extensions)) : cleaned extensions = extensions := by
  have short := (cleaned_sublist extensions).length_le
  rw [List.length_map] at short
  exact (within.eq_of_length (Nat.le_antisymm within.length_le short)).symm

theorem cleaned_eq_self_iff (extensions : List String) :
    cleaned extensions = extensions ↔ ∀ extension ∈ extensions, IsCleanExtension extension := by
  constructor
  · intro same extension member
    have within := cleaned_sublist extensions
    rw [same] at within
    have each := within.eq_of_length (by simp)
    have clean := (map_cleanExtension_iff extensions).mp each.symm extension member
    rw [← same] at member
    have some : extension ≠ "" := by simpa using (List.mem_filter.mp member).2
    exact (cleanExtension_eq_self_iff extension some).mp clean
  · intro clean
    have each := (map_cleanExtension_iff extensions).mpr fun extension member =>
      cleanExtension_clean extension (clean extension member)
    rw [cleaned, each, List.filter_eq_self]
    intro extension member
    simpa using (clean extension member).nonempty

section Storing

variable (raw : List String)

theorem addExtensions_eq_keepBy (kept : List String) :
    addExtensions kept raw = keepBy Text.sameIgnoringAsciiCase kept (cleaned raw) := by
  induction raw generalizing kept with
  | nil => rfl
  | cons value rest ih =>
    cases gone : (cleanExtension value).isEmpty with
    | true => simp [addExtensions, cleaned, gone, ih]
    | false =>
      have first : cleaned (value :: rest) = cleanExtension value :: cleaned rest := by
        simp [cleaned, gone]
      rw [first, keepBy, addExtensions, gone, Bool.false_or, ih, ih]
      split <;> rfl

theorem stored_eq : stored raw = keepBy Text.sameIgnoringAsciiCase [] (cleaned raw) :=
  addExtensions_eq_keepBy raw []

theorem stored_sublist : (stored raw).Sublist (cleaned raw) := by
  obtain ⟨more, within, split⟩ := keepBy_sublist Text.sameIgnoringAsciiCase [] (cleaned raw)
  rwa [stored_eq, split]

variable {raw}

theorem exists_value {extension : String} (kept : extension ∈ stored raw) :
    ∃ value ∈ raw, cleanExtension value = extension ∧ extension ≠ "" := by
  have left := (stored_sublist raw).subset kept
  simpa [cleaned, ← and_assoc] using left

theorem exists_stored {value : String} (given : value ∈ raw) (some : cleanExtension value ≠ "") :
    ∃ first ∈ stored raw, Text.sameIgnoringAsciiCase (cleanExtension value) first = true := by
  have left : cleanExtension value ∈ cleaned raw :=
    List.mem_filter.mpr ⟨List.mem_map_of_mem given, by simpa using some⟩
  rw [stored_eq]
  exact exists_keepBy Text.sameIgnoringAsciiCase_self [] _ left

variable (raw)

theorem stored_stored_iff :
    stored (stored raw) = stored raw ↔ cleaned (stored raw) = stored raw := by
  constructor
  · intro same
    have within := stored_sublist (stored raw)
    rw [same] at within
    exact cleaned_of_sublist (stored raw) within
  · intro same
    have apart := keepBy_apart Text.sameIgnoringAsciiCase [] (cleaned raw) List.Pairwise.nil
    rw [← stored_eq] at apart
    rw [stored_eq, same]
    exact keepBy_of_apart _ [] (stored raw) apart

theorem condition_stored : (extensionsOf raw).condition = tests (cleaned (stored raw)) := by
  have made : (extensionsOf raw).condition =
      if (endings (stored raw)).isEmpty then none else some (Predicate.any (endings (stored raw))) :=
    rfl
  have each : endings (stored raw) =
      (cleaned (stored raw)).map fun extension => .endsWith .fileName ("." ++ extension) := rfl
  rw [made, each, tests]
  cases cleaned (stored raw) <;> rfl

theorem tests_injective : Function.Injective tests := by
  have cancel (left right : List String)
      (same : left.map (fun extension => Predicate.endsWith .fileName ("." ++ extension)) =
        right.map fun extension => .endsWith .fileName ("." ++ extension)) : left = right := by
    refine List.map_injective_iff.mpr ?_ same
    intro first second same
    simpa using same
  intro left right same
  cases left with
  | nil =>
    cases right with
    | nil => rfl
    | cons first rest => simp [tests] at same
  | cons first rest =>
    cases right with
    | nil => simp [tests] at same
    | cons first' rest' =>
      apply cancel
      simp only [tests, List.cons_ne_nil, if_false, Option.some.injEq, List.map_cons] at same
      rcases rest with _ | ⟨second, rest⟩ <;> rcases rest' with _ | ⟨second', rest'⟩
      next => simpa [Predicate.any] using same
      next => simp [Predicate.any] at same
      next => simp [Predicate.any] at same
      next => simpa [Predicate.any] using same

theorem startsBlank_of_same {left right : String}
    (same : Text.sameIgnoringAsciiCase left right = true) (begins : StartsBlank left) :
    StartsBlank right := by
  obtain ⟨c, first, blank⟩ := begins
  have lowered := congrArg (fun text => text.toList.head?)
    ((Text.sameIgnoringAsciiCase_iff left right).mp same)
  simp only [Text.asciiLowercase, String.toList_ofList, List.head?_map] at lowered
  rw [Option.mem_def] at first
  rw [first, Option.map_some] at lowered
  obtain ⟨d, first', alike⟩ := Option.map_eq_some_iff.mp lowered.symm
  refine ⟨d, first', ?_⟩
  rw [← Text.isBlank_toLower, alike, Text.isBlank_toLower, blank]

theorem stored_clean_iff :
    (∀ extension ∈ stored raw, IsCleanExtension extension) ↔ SettleAtOnce raw := by
  constructor
  · intro clean value given mixed
    have begins := (startsBlank_clean_iff value).mpr mixed
    have some : cleanExtension value ≠ "" := by
      obtain ⟨c, first, -⟩ := begins
      intro none
      simp [none] at first
    -- The value itself may have been left out, but then for one that starts alike.
    obtain ⟨first, kept, same⟩ := exists_stored given some
    obtain ⟨source, -, rfl, some⟩ := exists_value kept
    exact (clean_iff source some).mp (clean _ kept) (startsBlank_of_same same begins)
  · intro settled extension kept
    obtain ⟨value, given, rfl, some⟩ := exists_value kept
    rw [clean_iff value some, startsBlank_clean_iff]
    exact settled value given

end Storing

/-- What is stored has no dot in front and no white space at the end. It has none in front either,
is stored again as it is, and is compiled to one test for each extension, each exactly if no value
that was given has white space behind the dots that it starts with. -/
theorem stored_extensions_settle_iff (raw : List String) :
    (∀ extension ∈ stored raw, extension ≠ "" ∧ extension.toList.head? ≠ some '.' ∧
        ∀ last ∈ extension.toList.getLast?, Text.isBlank last = false) ∧
      ((∀ extension ∈ stored raw, IsCleanExtension extension) ↔ SettleAtOnce raw) ∧
      (stored (stored raw) = stored raw ↔ SettleAtOnce raw) ∧
      ((extensionsOf raw).condition = tests (stored raw) ↔ SettleAtOnce raw) := by
  have settles : cleaned (stored raw) = stored raw ↔ SettleAtOnce raw := by
    rw [cleaned_eq_self_iff, stored_clean_iff]
  refine ⟨?_, stored_clean_iff raw, ?_, ?_⟩
  · intro extension kept
    obtain ⟨value, -, rfl, some⟩ := exists_value kept
    exact ⟨some, cleanExtension_dotless value, getLast?_cleanExtension value⟩
  · rw [stored_stored_iff, settles]
  · rw [condition_stored, tests_injective.eq_iff, settles]

-- Dots and white space by turns: the white space is stored, and what is compiled is another
-- extension, or none.
theorem blank_behind_dot_is_stored :
    stored [". pdf"] = [" pdf"] ∧ ¬ IsCleanExtension " pdf" ∧
      stored [" pdf"] = ["pdf"] ∧
      (extensionsOf [". pdf"]).condition = some (.endsWith .fileName ".pdf") ∧
      stored [". ."] = [" ."] ∧ (extensionsOf [". ."]).condition = none := by
  have mixed : stored [". pdf"] = [" pdf"] := by decide +kernel
  have again : stored [" pdf"] = ["pdf"] := by decide +kernel
  have nothing : stored [". ."] = [" ."] := by decide +kernel
  have unsettled := (stored_extensions_settle_iff [". pdf"]).2
  rw [mixed, again] at unsettled
  refine ⟨mixed, ?_, again, ?_, nothing, ?_⟩
  · intro clean
    have settled := unsettled.2.1.mpr (unsettled.1.mp (by simpa using clean))
    simp at settled
  · rw [condition_stored, mixed]
    rfl
  · rw [condition_stored, nothing]
    rfl

section Repeats

theorem asciiLowercase_cleanExtension (raw : String) :
    Text.asciiLowercase (cleanExtension raw) = cleanExtension (Text.asciiLowercase raw) := by
  have dots := Text.dropWhile_toLower (fun c => decide (c = '.')) Text.isDot_toLower
  simp only [Text.asciiLowercase, cleanExtension, String.toList_ofList, Text.trim_toLower, dots]

theorem cleanExtension_same {left right : String}
    (same : Text.sameIgnoringAsciiCase left right = true) :
    Text.sameIgnoringAsciiCase (cleanExtension left) (cleanExtension right) = true := by
  rw [Text.sameIgnoringAsciiCase_iff] at same ⊢
  rw [asciiLowercase_cleanExtension, asciiLowercase_cleanExtension, same]

theorem ne_empty_of_same {left right : String}
    (same : Text.sameIgnoringAsciiCase left right = true) (some : left ≠ "") : right ≠ "" := by
  rintro rfl
  apply some
  simpa [Text.sameIgnoringAsciiCase_iff, Text.asciiLowercase] using same

-- What a value comes to that is stripped as it is stored, and again as it is compiled.
def ComesTo (value extension : String) : Prop :=
  ∃ once, StripsTo value once ∧ StripsTo once extension

theorem comesTo_iff (value extension : String) :
    ComesTo value extension ↔ cleanExtension (cleanExtension value) = extension := by
  simp [ComesTo, stripsTo_iff]

-- The name of a file ends with a dot and an extension, whatever the case.
def EndsIn (file : Attributes) (extension : String) : Prop :=
  ∃ name ∈ file.text .fileName,
    (Text.lowercase ("." ++ extension)).toList <:+ (Text.lowercase name).toList

theorem endsIn_of_same (file : Attributes) {left right : String}
    (same : Text.sameIgnoringAsciiCase left right = true) (ends : EndsIn file left) :
    EndsIn file right := by
  have lowered := Text.lowercase_append_eq "." same
  rwa [EndsIn, lowered] at ends

variable (raw : List String)

theorem exists_listed_iff (holds : String → Prop)
    (invariant : ∀ left right, Text.sameIgnoringAsciiCase left right = true → holds left → holds right) :
    (∃ extension, Lists (stored raw) extension ∧ holds extension) ↔
      ∃ value ∈ raw, ∃ extension, ComesTo value extension ∧ extension ≠ "" ∧ holds extension := by
  simp only [lists_iff, comesTo_iff]
  constructor
  · rintro ⟨extension, ⟨member, some⟩, held⟩
    obtain ⟨first, kept, rfl⟩ := List.mem_map.mp member
    obtain ⟨value, given, rfl, -⟩ := exists_value kept
    exact ⟨value, given, _, rfl, some, held⟩
  · rintro ⟨value, given, _, rfl, some, held⟩
    have full : cleanExtension value ≠ "" := by
      intro none
      exact some (by rw [none]; decide)
    obtain ⟨first, kept, same⟩ := exists_stored given full
    have alike := cleanExtension_same same
    exact ⟨cleanExtension first, ⟨List.mem_map_of_mem kept, ne_empty_of_same alike some⟩,
      invariant _ _ alike held⟩

theorem extensionsOf_accepts_iff (file : Attributes) :
    (extensionsOf raw).Accepts file ↔
      ∃ value ∈ raw, ∃ extension, ComesTo value extension ∧ extension ≠ "" ∧
        EndsIn file extension := by
  have listed := exists_listed_iff raw (EndsIn file) fun _ _ => endsIn_of_same file
  rw [accepts_iff, ← listed]
  refine and_iff_right_of_imp ?_
  rintro ⟨extension, listed, -⟩
  exact ⟨extension, listed⟩

theorem extensionsOf_condition_eq_none_iff :
    (extensionsOf raw).condition = none ↔ ∀ value ∈ raw, ComesTo value "" := by
  have listed := exists_listed_iff raw (fun _ => True) fun _ _ _ => id
  have active : (extensionsOf raw).condition.isSome = true ↔ ∃ extension, Lists (stored raw) extension :=
    (extensionsOf raw).condition_isSome_iff
  simp only [and_true] at listed
  rw [← not_iff_not, ← ne_eq, Option.ne_none_iff_isSome, active, listed]
  simp [comesTo_iff]

/-- A file has one of the extensions in a list exactly if it has the one that comes of some single
value, although values are left out as repeats. -/
theorem repeats_take_no_file_away (file : Attributes) :
    ((extensionsOf raw).Accepts file ↔ ∃ value ∈ raw, (extensionsOf [value]).Accepts file) ∧
      ((extensionsOf raw).condition = none ↔
        ∀ value ∈ raw, (extensionsOf [value]).condition = none) ∧
      ∀ value, (extensionsOf [value]).Accepts file ↔
        ∃ extension, ComesTo value extension ∧ extension ≠ "" ∧ EndsIn file extension := by
  have single (value : String) := extensionsOf_accepts_iff [value] file
  have inert (value : String) := extensionsOf_condition_eq_none_iff [value]
  simp only [List.mem_singleton, exists_eq_left, forall_eq] at single inert
  refine ⟨?_, ?_, single⟩
  · simp only [extensionsOf_accepts_iff raw, single]
  · simp only [extensionsOf_condition_eq_none_iff raw, inert]

end Repeats

end FileSearch.Filter

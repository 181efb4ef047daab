import FileSearch.Proofs.Query.Meaning
import FileSearch.Proofs.Text.AsciiCase
import Mathlib.Data.List.TakeWhile

set_option autoImplicit false

namespace FileSearch

section LastPlace

variable {α : Type} {x : α}

theorem exists_last_split {items : List α} (member : x ∈ items) :
    ∃ front ending, items = front ++ x :: ending ∧ x ∉ ending := by
  obtain ⟨before, after, split, absent⟩ :=
    List.eq_append_cons_of_mem (List.mem_reverse.mpr member)
  refine ⟨after.reverse, before.reverse, ?_, by simpa using absent⟩
  rw [← List.reverse_reverse items, split]
  simp

variable [DecidableEq α] (front : List α) {ending : List α}

theorem ne_of_mem_reverse (absent : x ∉ ending) : ∀ y ∈ ending.reverse, decide (y ≠ x) = true := by
  intro y member
  rw [List.mem_reverse] at member
  simp [ne_of_mem_of_not_mem member absent]

theorem takeWhile_reverse_split (absent : x ∉ ending) :
    (front ++ x :: ending).reverse.takeWhile (· ≠ x) = ending.reverse := by
  rw [List.reverse_append, List.reverse_cons, List.append_assoc,
    List.takeWhile_append_of_pos (ne_of_mem_reverse absent)]
  simp

theorem dropWhile_reverse_split (absent : x ∉ ending) :
    (front ++ x :: ending).reverse.dropWhile (· ≠ x) = x :: front.reverse := by
  rw [List.reverse_append, List.reverse_cons, List.append_assoc,
    List.dropWhile_append_of_pos (ne_of_mem_reverse absent)]
  simp

theorem suffix_split_iff {other : List α} (absent : x ∉ ending) (absent' : x ∉ other) :
    x :: other <:+ front ++ x :: ending ↔ other = ending := by
  constructor
  · rintro ⟨more, split⟩
    have same := congrArg (fun items => (items.reverse.takeWhile (· ≠ x)).reverse) split
    simpa only [takeWhile_reverse_split _ absent, takeWhile_reverse_split _ absent',
      List.reverse_reverse] using same
  · rintro rfl
    exact List.suffix_append _ _

end LastPlace

theorem extensionOfName_split {name : String} {front ending : List Char}
    (split : name.toList = front ++ '.' :: ending) (dotless : '.' ∉ ending) (named : front ≠ []) :
    extensionOfName name =
      if ending = [] then none else some (Text.asciiLowercase (String.ofList ending)) := by
  have behind := takeWhile_reverse_split front dotless
  have before := dropWhile_reverse_split front dotless
  obtain ⟨c, rest, inFront⟩ := List.exists_cons_of_ne_nil (List.reverse_ne_nil_iff.mpr named)
  rw [inFront] at before
  simp only [extensionOfName, split, behind, before, List.reverse_reverse]
  simp

theorem extensionOfName_dotless {name : String} (dotless : '.' ∉ name.toList) :
    extensionOfName name = none := by
  have skipped : name.toList.reverse.dropWhile (· ≠ '.') = [] := by
    simpa using fun c member => ne_of_mem_of_not_mem member dotless
  rw [extensionOfName, skipped]

namespace Text

theorem lower_dot (front ending : List Char) (plain : 'Σ' ∉ front ++ '.' :: ending) :
    lower (front ++ '.' :: ending) = lower front ++ '.' :: lower ending := by
  have dot : lowerPlain '.' = ['.'] := by decide +kernel
  simp only [List.mem_append, List.mem_cons, not_or] at plain
  rw [lower_of_plain _ (by simpa using plain), lower_of_plain _ plain.1,
    lower_of_plain _ plain.2.2, List.flatMap_append, List.flatMap_cons, dot]
  rfl

theorem lower_suffix_iff {front ending extension : List Char} (dotless : '.' ∉ ending)
    (dotless' : '.' ∉ extension) (plain : 'Σ' ∉ front ++ '.' :: ending) (plain' : 'Σ' ∉ extension) :
    lower ('.' :: extension) <:+ lower (front ++ '.' :: ending) ↔ lower extension = lower ending := by
  have alone := lower_dot [] extension (by simpa using plain')
  have start : lower [] = [] := rfl
  rw [List.nil_append, start, List.nil_append] at alone
  rw [alone, lower_dot front ending plain]
  exact suffix_split_iff _ (lone_dot.notMem_lower dotless) (lone_dot.notMem_lower dotless')

theorem lowercase_eq_iff (left right : String) :
    lowercase left = lowercase right ↔ lower left.toList = lower right.toList := by
  rw [lowercase, lowercase, String.ofList_inj]

end Text

theorem shown_split_iff {name extension : String} {front ending : List Char}
    (split : name.toList = front ++ '.' :: ending) (dotless : '.' ∉ ending) (named : front ≠ [])
    (nonempty : extension ≠ "") :
    (∃ shown, extensionOfName name = some shown ∧
        Text.lowercase shown = Text.lowercase extension) ↔
      Text.lower extension.toList = Text.lower ending := by
  rw [extensionOfName_split split dotless named]
  by_cases none : ending = []
  · -- Behind a dot at the end stands nothing, and the extension is not nothing in lower case either.
    have lowered := Text.lower_ne_nil extension.toList (by simpa using nonempty)
    have empty : Text.lower [] = [] := rfl
    simp [none, empty, lowered]
  · have made : (String.ofList ending).toList = ending := String.toList_ofList
    rw [if_neg none, eq_comm, ← made, ← Text.lowercase_eq_iff]
    simp [Text.lowercase_asciiLowercase]

/-- A name ends in a dot and an extension, whatever their case, exactly if the extension that is
shown for the name is that one, whatever its case. -/
theorem ending_found_iff_shown (file : Attributes) (name extension : String)
    (reads : file.text .fileName = some name) (visible : name.toList.head? ≠ some '.')
    (nonempty : extension ≠ "") (dotless : '.' ∉ extension.toList) (plain : 'Σ' ∉ name.toList)
    (plain' : 'Σ' ∉ extension.toList) :
    (Predicate.endsWith .fileName ("." ++ extension)).holds file = true ↔
      ∃ shown, extensionOfName name = some shown ∧
        Text.lowercase shown = Text.lowercase extension := by
  have found : (Predicate.endsWith .fileName ("." ++ extension)).holds file = true ↔
      Text.lower ('.' :: extension.toList) <:+ Text.lower name.toList := by
    rw [Predicate.holds, Predicate.hasEnding_iff]
    simp [reads, Text.lowercase_toList]
  rw [found]
  by_cases dotted : '.' ∈ name.toList
  · obtain ⟨front, ending, split, last⟩ := exists_last_split dotted
    have named : front ≠ [] := by
      rintro rfl
      exact visible (by rw [split]; rfl)
    rw [shown_split_iff split last named nonempty, split]
    exact Text.lower_suffix_iff last dotless (split ▸ plain) plain'
  · -- Without a dot, a name shows no extension, and there is none in its lower case either.
    have absent : '.' ∉ Text.lower name.toList := Text.lone_dot.notMem_lower dotted
    have begins := Text.lower_dot [] extension.toList (by simpa using plain')
    refine iff_of_false (fun ends => absent (ends.subset ?_)) ?_
    · rw [List.nil_append] at begins
      simp [begins]
    · simp [extensionOfName_dotless dotted]

-- The sign for kelvin is lowered to a letter of ASCII, but it is shown as it is.
theorem kelvin_found_and_shown :
    let name := "İ.v2.\u212ag"
    let file := (RawRecord.empty.set .fileName (.text name)).attributes
    file.text .fileName = some name ∧ name.toList.head? ≠ some '.' ∧ "kg" ≠ "" ∧
      '.' ∉ "kg".toList ∧ 'Σ' ∉ name.toList ∧ 'Σ' ∉ "kg".toList ∧
      extensionOfName name = some "\u212ag" ∧
      (Predicate.endsWith .fileName ("." ++ "kg")).holds file = true := by
  intro name file
  have visible : name.toList.head? ≠ some '.' := by decide
  have plain : 'Σ' ∉ name.toList := by decide
  have shown : extensionOfName name = some "\u212ag" := by decide +kernel
  refine ⟨rfl, visible, by decide, by decide, plain, by decide, shown, ?_⟩
  have found := ending_found_iff_shown file name "kg" rfl visible (by decide) (by decide) plain
    (by decide)
  exact found.mpr ⟨"\u212ag", shown, by decide +kernel⟩

end FileSearch

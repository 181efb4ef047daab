import FileSearch.Filter
import FileSearch.Proofs.Text.Trimming

set_option autoImplicit false

namespace FileSearch.Filter

-- The white space around a text goes, and then the dots in front of what is left.
def StripsTo (raw extension : String) : Prop :=
  ∃ dots, Text.Surrounds raw.toList (List.replicate dots '.' ++ extension.toList) ∧
    extension.toList.head? ≠ some '.'

theorem cleanExtension_toList (raw : String) :
    (cleanExtension raw).toList = (Text.trim raw.toList).dropWhile (· = '.') :=
  String.toList_ofList

theorem cleanExtension_dotless (raw : String) :
    (cleanExtension raw).toList.head? ≠ some '.' := by
  have first := List.head?_dropWhile_not (· = '.') (Text.trim raw.toList)
  rw [cleanExtension_toList]
  intro dot
  simp [dot] at first

theorem exists_dots (raw : String) :
    ∃ dots, Text.trim raw.toList = List.replicate dots '.' ++ (cleanExtension raw).toList := by
  let dots := (Text.trim raw.toList).takeWhile (· = '.')
  have all : dots = List.replicate dots.length '.' := by
    apply List.eq_replicate_length.mpr
    intro d member
    simpa using List.mem_takeWhile_imp member
  refine ⟨dots.length, ?_⟩
  rw [← all, cleanExtension_toList, List.takeWhile_append_dropWhile]

theorem stripsTo_iff (raw extension : String) :
    StripsTo raw extension ↔ cleanExtension raw = extension := by
  constructor
  · rintro ⟨dots, surrounds, dotless⟩
    rw [Text.surrounds_iff] at surrounds
    rw [← String.toList_inj, cleanExtension_toList, surrounds,
      List.dropWhile_append_of_pos (by simp)]
    cases left : extension.toList with
    | nil => rfl
    | cons c rest =>
      have other : c ≠ '.' := by simpa [left] using dotless
      simp [other]
  · rintro rfl
    obtain ⟨dots, split⟩ := exists_dots raw
    exact ⟨dots, (Text.surrounds_iff _ _).mpr split, cleanExtension_dotless raw⟩

-- Dots are stripped from the front only, so what is left ends as the trimmed text does.
theorem getLast?_cleanExtension (raw : String) :
    ∀ last ∈ (cleanExtension raw).toList.getLast?, Text.isBlank last = false := by
  intro last ends
  obtain ⟨dots, split⟩ := exists_dots raw
  apply Text.getLast?_trim raw.toList
  rw [split]
  exact List.mem_getLast?_append_of_mem_getLast? ends

theorem cleanExtension_shown (raw : String) (full : cleanExtension raw ≠ "") :
    ∃ c ∈ (cleanExtension raw).toList, Text.isBlank c = false := by
  have some : (cleanExtension raw).toList ≠ [] := by simpa using full
  have last := List.getLast?_eq_some_getLast some
  exact ⟨_, List.getLast_mem some, getLast?_cleanExtension raw _ last⟩

end FileSearch.Filter

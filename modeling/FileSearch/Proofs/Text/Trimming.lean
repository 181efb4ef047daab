import FileSearch.Text.Blank
import Mathlib.Data.List.DropRight

set_option autoImplicit false

namespace FileSearch.Text

theorem trimRight_eq (text : List Char) : trimRight text = text.rdropWhile isBlank := rfl

theorem trimRight_cons (c : Char) (rest : List Char) (shown : isBlank c = false) :
    trimRight (c :: rest) = c :: trimRight rest := by
  simp only [trimRight, trimLeft, List.reverse_cons, List.dropWhile_append]
  by_cases blank : rest.reverse.dropWhile isBlank = []
  next => simp [blank, shown]
  next => simp [blank]

theorem trim_cons (c : Char) (rest : List Char) (shown : isBlank c = false) :
    trim (c :: rest) = c :: trimRight rest := by
  simp [trim, trimLeft, shown, trimRight_cons]

theorem trim_sublist (text : List Char) : (trim text).Sublist text :=
  (List.rdropWhile_prefix isBlank _).sublist.trans (List.dropWhile_sublist isBlank)

theorem head?_trimLeft (text : List Char) :
    ∀ first ∈ (trimLeft text).head?, isBlank first = false := by
  intro first begins
  have shown := List.head?_dropWhile_not isBlank text
  rw [Option.mem_def, trimLeft] at begins
  simpa [begins] using shown

theorem head?_trim (text : List Char) : ∀ first ∈ (trim text).head?, isBlank first = false := by
  have begins := head?_trimLeft text
  rw [trim]
  cases left : trimLeft text with
  | nil => simp [trimRight_eq]
  | cons c rest =>
    have shown : isBlank c = false := begins c (by simp [left])
    simp [trimRight_cons c rest shown, shown]

theorem getLast?_trim (text : List Char) : ∀ last ∈ (trim text).getLast?, isBlank last = false := by
  intro last ends
  have shown := head?_trimLeft (trimLeft text).reverse
  rw [Option.mem_def, trim, trimRight, List.getLast?_reverse] at ends
  exact shown last ends

theorem trim_eq_self (text : List Char) (begins : ∀ first ∈ text.head?, isBlank first = false)
    (ends : ∀ last ∈ text.getLast?, isBlank last = false) : trim text = text := by
  have left : trimLeft text = text := by
    cases text with
    | nil => rfl
    | cons c rest => simp [trimLeft, begins c rfl]
  rw [trim, left, trimRight_eq, List.rdropWhile_eq_self_iff]
  intro some blank
  have shown := ends (text.getLast some) (List.getLast?_eq_some_getLast some)
  simp [shown] at blank

theorem trimLeft_append (blanks text : List Char) (blank : ∀ c ∈ blanks, isBlank c = true) :
    trimLeft (blanks ++ text) = trimLeft text :=
  List.dropWhile_append_of_pos blank

theorem trimRight_append (text blanks : List Char) (blank : ∀ c ∈ blanks, isBlank c = true) :
    trimRight (text ++ blanks) = trimRight text := by
  rw [trimRight, trimRight, List.reverse_append, trimLeft_append]
  simpa using blank

theorem exists_trimLeft (text : List Char) :
    ∃ blanks, text = blanks ++ trimLeft text ∧ ∀ c ∈ blanks, isBlank c = true :=
  ⟨text.takeWhile isBlank, List.takeWhile_append_dropWhile.symm, fun _ => List.mem_takeWhile_imp⟩

theorem exists_trimRight (text : List Char) :
    ∃ blanks, text = trimRight text ++ blanks ∧ ∀ c ∈ blanks, isBlank c = true := by
  obtain ⟨blanks, split, blank⟩ := exists_trimLeft text.reverse
  refine ⟨blanks.reverse, ?_, by simpa using blank⟩
  rw [trimRight, ← List.reverse_append, ← split, List.reverse_reverse]

-- White space, a text with none at its ends, and white space again.
structure Surrounds (text core : List Char) : Prop where
  split : ∃ before after, text = before ++ core ++ after ∧
    (∀ c ∈ before, isBlank c = true) ∧ ∀ c ∈ after, isBlank c = true
  begins : ∀ first ∈ core.head?, isBlank first = false
  ends : ∀ last ∈ core.getLast?, isBlank last = false

theorem surrounds_iff (text core : List Char) : Surrounds text core ↔ trim text = core := by
  constructor
  · rintro ⟨⟨before, after, rfl, blank, blank'⟩, begins, ends⟩
    have left : trimLeft core = core := by
      cases core with
      | nil => rfl
      | cons c rest => simp [trimLeft, begins c rfl]
    have right : trimRight core = core := by
      have whole := trim_eq_self core begins ends
      rwa [trim, left] at whole
    rw [List.append_assoc, trim, trimLeft_append before _ blank]
    cases core with
    | nil => rw [List.nil_append, ← List.append_nil after, trimLeft_append after [] blank']; rfl
    | cons c rest =>
      have shown : isBlank c = false := begins c rfl
      have stays : trimLeft (c :: rest ++ after) = c :: rest ++ after := by simp [trimLeft, shown]
      rw [stays, trimRight_append _ after blank', right]
  · rintro rfl
    obtain ⟨before, front, blank⟩ := exists_trimLeft text
    obtain ⟨after, back, blank'⟩ := exists_trimRight (trimLeft text)
    refine ⟨⟨before, after, ?_, blank, blank'⟩, head?_trim text, getLast?_trim text⟩
    rw [List.append_assoc, trim, ← back, ← front]

end FileSearch.Text

import FileSearch.Json.Reader
import FileSearch.Json.Text
import Mathlib.Data.List.TakeWhile
import Mathlib.Data.Nat.Basic

set_option autoImplicit false

namespace FileSearch

open Draft Draft.Reader

section Strings

theorem hexValue?_digitChar : ∀ digit < 16, hexValue? (Nat.digitChar digit) = some digit := by
  decide

theorem pushUnit_toNat (c : Char) (chars : Characters) (ready : chars.waiting = none)
    (low : c.toNat < 0x20) : chars.pushUnit c.toNat = chars.push c := by
  have notHigh : isHighSurrogate c.toNat = false := by
    simp only [isHighSurrogate, Bool.and_eq_false_iff, decide_eq_false_iff_not]
    omega
  have notLow : isLowSurrogate c.toNat = false := by
    simp only [isLowSurrogate, Bool.and_eq_false_iff, decide_eq_false_iff_not]
    omega
  simp [Characters.pushUnit, ready, notHigh, notLow]

theorem string?_escapeChar (c : Char) (rest : List Char) (chars : Characters)
    (ready : chars.waiting = none) :
    string? (escapeChar c ++ rest) .plain chars = string? rest .plain (chars.push c) := by
  unfold escapeChar
  split
  -- The characters that have an escape of their own.
  iterate 7 rfl
  next noQuote noBackslash _ _ _ _ _ =>
    split
    -- Two of the four hexadecimal digits are zeros.
    next low =>
      have high : hexValue? (Nat.digitChar (c.toNat / 16)) = some (c.toNat / 16) :=
        hexValue?_digitChar _ (by omega)
      have last : hexValue? (Nat.digitChar (c.toNat % 16)) = some (c.toNat % 16) :=
        hexValue?_digitChar _ (by omega)
      have zero : hexValue? '0' = some 0 := rfl
      simp [string?, zero, high, last, Nat.div_add_mod', pushUnit_toNat c chars ready low]
    next shown =>
      have noQuote : c ≠ '"' := noQuote
      have noBackslash : c ≠ '\\' := noBackslash
      simp [string?, noQuote, noBackslash, shown]

theorem string?_written (written rest read : List Char) :
    string? (written.flatMap escapeChar ++ '"' :: rest) .plain ⟨read, none, true⟩ =
      some (some (String.ofList (read.reverse ++ written)), rest) := by
  induction written generalizing read with
  | nil => simp [string?, Characters.finish]
  | cons c written ih =>
    rw [List.flatMap_cons, List.append_assoc, string?_escapeChar c _ _ rfl, Characters.push]
    simpa using ih (c :: read)

theorem string?_stringText (text : String) (rest : List Char) :
    string? ((stringText text).tail ++ rest) .plain startOfString = some (some text, rest) := by
  have read := string?_written text.toList rest []
  simpa [stringText, startOfString] using read

end Strings

section Numbers

-- Nothing that goes on with an integer stands at the start of the text.
def EndsInteger (text : List Char) : Prop :=
  ∀ c ∈ text.head?, c.isDigit = false ∧ c ≠ '.' ∧ c ≠ 'e' ∧ c ≠ 'E'

theorem toDigits_cons (n : Nat) : ∃ c run, Nat.toDigits 10 n = c :: run ∧ c.isDigit = true := by
  obtain ⟨c, run, shown⟩ := List.exists_cons_of_ne_nil (Nat.toDigits_ne_nil (n := n) (b := 10))
  have member : c ∈ Nat.toDigits 10 n := shown ▸ List.mem_cons_self
  exact ⟨c, run, shown, Nat.isDigit_of_mem_toDigits (by decide) (by decide) member⟩

theorem head?_toDigits (n : Nat) (positive : 0 < n) : (Nat.toDigits 10 n).head? ≠ some '0' := by
  induction n using Nat.strongRecOn with
  | _ n ih =>
    by_cases single : n < 10
    · rw [Nat.toDigits_of_lt_base single]
      have digits : ∀ digit < 10, 0 < digit → [Nat.digitChar digit].head? ≠ some '0' := by decide
      exact digits n single positive
    · have before := ih (n / 10) (by omega) (by omega)
      obtain ⟨c, run, shown, -⟩ := toDigits_cons (n / 10)
      rw [Nat.toDigits_of_base_le (by decide) (by omega), shown]
      rwa [shown] at before

theorem digits?_toDigits (n : Nat) (rest : List Char) (ends : EndsInteger rest) :
    digits? (Nat.toDigits 10 n ++ rest) = some (Nat.toDigits 10 n, rest) := by
  have all : ∀ c ∈ Nat.toDigits 10 n, c.isDigit = true := fun _ =>
    Nat.isDigit_of_mem_toDigits (by decide) (by decide)
  have behind : rest.takeWhile Char.isDigit = [] := by
    cases rest with
    | nil => rfl
    | cons c rest => exact List.takeWhile_cons_of_neg (by simp [(ends c rfl).1])
  have left : rest.dropWhile Char.isDigit = rest := by
    cases rest with
    | nil => rfl
    | cons c rest => exact List.dropWhile_cons_of_neg (by simp [(ends c rfl).1])
  rw [digits?, List.takeWhile_append_of_pos all, List.dropWhile_append_of_pos all, behind, left,
    List.append_nil]
  simp

theorem fraction?_ends (rest : List Char) (ends : EndsInteger rest) :
    fraction? rest = some (none, rest) := by
  cases rest with
  | nil => rfl
  | cons c rest =>
    obtain ⟨-, point, -⟩ := ends c rfl
    unfold fraction?
    split
    next same => exact absurd (List.head_eq_of_cons_eq same) point
    next => rfl

theorem exponent?_ends (rest : List Char) (ends : EndsInteger rest) :
    exponent? rest = some (none, rest) := by
  cases rest with
  | nil => rfl
  | cons c rest =>
    obtain ⟨-, -, small, large⟩ := ends c rfl
    unfold exponent?
    split
    next same => exact absurd (List.head_eq_of_cons_eq same) small
    next same => exact absurd (List.head_eq_of_cons_eq same) large
    next => rfl

def integerLiteral (value : Int) : JsonNumber.Literal where
  negative := value < 0
  whole := Nat.toDigits 10 value.natAbs
  fraction := none
  exponent := none

theorem literal?_integerText (value : Int) (rest : List Char) (ends : EndsInteger rest) :
    literal? (JsonNumber.integerText value ++ rest) = some (integerLiteral value, rest) := by
  have leading : ¬ ((Nat.toDigits 10 value.natAbs).length ≠ 1 ∧
      (Nat.toDigits 10 value.natAbs).head? = some '0') := by
    rintro ⟨several, zero⟩
    rcases Nat.eq_zero_or_pos value.natAbs with none | positive
    · rw [none] at several
      exact several rfl
    · exact head?_toDigits _ positive zero
  have digits := digits?_toDigits value.natAbs rest ends
  have fraction := fraction?_ends rest ends
  have exponent := exponent?_ends rest ends
  rw [integerLiteral, JsonNumber.integerText]
  split
  next negative =>
    rw [List.cons_append, List.nil_append, List.cons_append, literal?]
    simp only [digits, fraction, exponent, leading, if_false, Option.bind_eq_bind,
      Option.bind_some, negative, decide_true]
  next natural =>
    have unsigned (tail : List Char) : Nat.toDigits 10 value.natAbs ++ rest ≠ '-' :: tail := by
      obtain ⟨c, run, shown, digit⟩ := toDigits_cons value.natAbs
      rw [shown]
      rintro ⟨⟩
      exact absurd digit (by decide)
    rw [List.nil_append, literal?]
    · simp only [digits, fraction, exponent, leading, if_false, Option.bind_eq_bind,
        Option.bind_some, natural, decide_false]
    · exact unsigned

-- The integers of 64 bits, with or without a sign.
def FitsWord (value : Int) : Prop :=
  -JsonNumber.integerEnd ≤ 2 * value ∧ value < JsonNumber.integerEnd

theorem number?_integerLiteral (value : Int) (fits : FitsWord value) :
    (integerLiteral value).number? = some (.integer value) := by
  obtain ⟨least, most⟩ := fits
  obtain ⟨size, sizeIs⟩ : ∃ size, value.natAbs = size := ⟨_, rfl⟩
  rw [JsonNumber.Literal.number?, integerLiteral]
  simp only [Nat.ofDigitChars_ten_toDigits, Option.isNone_none, Bool.true_and, Bool.and_self, sizeIs]
  by_cases negative : value < 0
  · have small : 0 < size ∧ 2 * size ≤ JsonNumber.integerEnd := by omega
    have value : -(size : Int) = value := by omega
    simp [negative, small, value]
  · have small : size < JsonNumber.integerEnd := by omega
    have value : (size : Int) = value := by omega
    simp [negative, small, value]

end Numbers

end FileSearch

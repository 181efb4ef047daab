import FileSearch.Proofs.Time.Calendar
import FileSearch.Time.Reader
import FileSearch.Time.Text
import Mathlib.Data.List.TakeWhile
import Mathlib.Data.Nat.Basic

set_option autoImplicit false

namespace FileSearch

section Digits

variable (width n : Nat)

theorem paddedDigits_isDigit : ∀ c ∈ paddedDigits width n, c.isDigit = true := by
  intro c member
  rw [paddedDigits, List.mem_append] at member
  rcases member with zero | digit
  · rw [List.eq_of_mem_replicate zero]
    rfl
  · exact Nat.isDigit_of_mem_toDigits (by decide) (by decide) digit

theorem paddedDigits_unclosed : ∀ c ∈ paddedDigits width n, c ≠ ')' := by
  rintro c member rfl
  exact absurd (paddedDigits_isDigit width n _ member) (by decide)

theorem paddedDigits_ne_nil : paddedDigits width n ≠ [] := by
  simp [paddedDigits, Nat.toDigits_ne_nil]

theorem length_paddedDigits (some : 0 < width) (small : n < Nat.pow 10 width) :
    (paddedDigits width n).length = width := by
  have short := (Nat.length_toDigits_le_iff (by decide) some).mpr small
  rw [paddedDigits, List.length_append, List.length_replicate]
  omega

theorem ofDigitChars_paddedDigits : Nat.ofDigitChars 10 (paddedDigits width n) 0 = n := by
  simp [paddedDigits, Nat.ofDigitChars_append, Nat.ofDigitChars_replicate_zero]

end Digits

namespace Instant.Reader

theorem isBlank_of_isDigit (c : Char) (digit : c.isDigit = true) : Text.isBlank c = false := by
  simp only [Char.isDigit, Bool.and_eq_true, decide_eq_true_eq, ge_iff_le,
    UInt32.le_iff_toNat_le] at digit
  change 48 ≤ c.toNat ∧ c.toNat ≤ 57 at digit
  have behind : ¬ c.toNat < 9 ∧ ¬ c.toNat ≤ 13 ∧ ¬ c.toNat < 32 ∧ ¬ c.toNat ≤ 32 ∧ c.toNat < 133 := by
    omega
  simp only [Text.isBlank, Text.blankRanges, Text.covers, behind, if_true, if_false]

theorem trimLeft_cons (c : Char) (rest : List Char) (shown : Text.isBlank c = false) :
    Text.trimLeft (c :: rest) = c :: rest := by
  simp [Text.trimLeft, shown]

theorem trimLeft_paddedDigits (width n : Nat) (rest : List Char) :
    Text.trimLeft (paddedDigits width n ++ rest) = paddedDigits width n ++ rest := by
  obtain ⟨c, run, split⟩ := List.exists_cons_of_ne_nil (paddedDigits_ne_nil width n)
  have digit : c.isDigit = true := paddedDigits_isDigit width n c (by simp [split])
  rw [split, List.cons_append, trimLeft_cons _ _ (isBlank_of_isDigit c digit)]

theorem digits_paddedDigits (width n : Nat) (rest : List Char) (some' : 0 < width)
    (small : n < Nat.pow 10 width) :
    digits (some width) (paddedDigits width n ++ rest) = .ok (n, rest) := by
  have all := paddedDigits_isDigit width n
  have length := length_paddedDigits width n some' small
  have value := ofDigitChars_paddedDigits width n
  obtain ⟨c, run, split⟩ := List.exists_cons_of_ne_nil (paddedDigits_ne_nil width n)
  rw [split] at all length value ⊢
  rw [List.cons_append, digits, if_pos (all c List.mem_cons_self), ← List.cons_append,
    List.takeWhile_append_of_pos all]
  simp [← length, value]

theorem digits_all (width? : Option Nat) (width n : Nat) (stop : Char) (rest : List Char)
    (enough : ∀ most ∈ width?, (paddedDigits width n).length ≤ most)
    (other : stop.isDigit = false) :
    digits width? (paddedDigits width n ++ stop :: rest) = .ok (n, stop :: rest) := by
  have all := paddedDigits_isDigit width n
  have value := ofDigitChars_paddedDigits width n
  obtain ⟨c, run, split⟩ := List.exists_cons_of_ne_nil (paddedDigits_ne_nil width n)
  rw [split] at all value enough ⊢
  rw [List.cons_append, digits, if_pos (all c List.mem_cons_self), ← List.cons_append,
    List.takeWhile_append_of_pos all, List.takeWhile_cons_of_neg (by simp [other]), List.append_nil]
  cases width? with
  | none => simp [value]
  | some most => simp [List.take_of_length_le (enough most rfl), value]

theorem separator_cons (mark : Char) (rest : List Char) (shown : Text.isBlank mark = false) :
    separator mark (mark :: rest) = .ok ((), rest) := by
  simp [separator, trimLeft_cons mark rest shown]

theorem field_paddedDigits (lowest highest n : Nat) (rest : List Char) (least : lowest ≤ n)
    (most : n ≤ highest) (small : highest < 100) :
    field lowest highest (paddedDigits 2 n ++ rest) = .ok (n, rest) := by
  have short : n < 100 := by omega
  have read := digits_paddedDigits 2 n rest (by decide) short
  simp [field, trimLeft_paddedDigits, read, bind, Except.bind, least, most]

theorem year_yearText (number : Int) (rest : List Char) (least : -262143 ≤ number)
    (most : number ≤ 262142) :
    year (yearText number ++ '-' :: rest) = .ok (number, '-' :: rest) := by
  have range : -2147483648 ≤ number ∧ number ≤ 2147483647 := by omega
  by_cases short : 0 ≤ number ∧ number ≤ 9999
  · have small : number.toNat < 10000 := by omega
    have read := digits_paddedDigits 4 number.toNat ('-' :: rest) (by decide) small
    have value : ((number.toNat : Nat) : Int) = number := by omega
    have all := paddedDigits_isDigit 4 number.toNat
    rw [yearText, if_pos short, year, trimLeft_paddedDigits]
    obtain ⟨c, run, split⟩ := List.exists_cons_of_ne_nil (paddedDigits_ne_nil 4 number.toNat)
    rw [split] at all read ⊢
    -- A digit is not taken for a sign.
    have minus : c ≠ '-' := by
      rintro rfl
      exact absurd (all '-' List.mem_cons_self) (by decide)
    have plus : c ≠ '+' := by
      rintro rfl
      exact absurd (all '+' List.mem_cons_self) (by decide)
    rw [List.cons_append] at read ⊢
    simp [minus, plus, read, value, bind, Except.bind, pure, Except.pure, range]
  · obtain ⟨size, sizeIs⟩ : ∃ size, number.natAbs = size := ⟨_, rfl⟩
    have read := digits_all none 4 size '-' rest (by simp) rfl
    by_cases negative : number < 0
    · have value : -(size : Int) = number := by omega
      rw [yearText, if_neg short, if_pos negative, sizeIs, year, List.cons_append,
        trimLeft_cons _ _ (by decide)]
      simp [read, value, bind, Except.bind, pure, Except.pure, range]
    · have value : (size : Int) = number := by omega
      rw [yearText, if_neg short, if_neg negative, sizeIs, year, List.cons_append,
        trimLeft_cons _ _ (by decide)]
      simp [read, value, bind, Except.bind, pure, Except.pure, range]

theorem fraction_paddedDigits (width n : Nat) (rest : List Char) (some' : 0 < width)
    (most : width ≤ 9) (small : n < Nat.pow 10 width) :
    fraction ('.' :: paddedDigits width n ++ 'Z' :: rest) =
      .ok (n * Nat.pow 10 (9 - width), 'Z' :: rest) := by
  have length := length_paddedDigits width n some' small
  have read := digits_all (some 9) width n 'Z' rest (by simp [length, most]) rfl
  have left : ('Z' :: rest).dropWhile Char.isDigit = 'Z' :: rest :=
    List.dropWhile_cons_of_neg (by decide)
  rw [List.cons_append, fraction]
  simp [read, left, length, bind, Except.bind]

theorem fraction_fractionText (nano : Nat) (rest : List Char) (small : nano < 1000000000) :
    fraction (fractionText nano ++ 'Z' :: rest) = .ok (nano, 'Z' :: rest) := by
  -- The digits that are left out were zeros.
  have milli (exact : nano % 1000000 = 0) : nano / 1000000 * Nat.pow 10 6 = nano :=
    Nat.div_mul_cancel (Nat.dvd_of_mod_eq_zero exact)
  have micro (exact : nano % 1000 = 0) : nano / 1000 * Nat.pow 10 3 = nano :=
    Nat.div_mul_cancel (Nat.dvd_of_mod_eq_zero exact)
  rw [fractionText]
  split_ifs with whole exact exact
  · rw [whole]
    rfl
  · rw [fraction_paddedDigits 3 _ rest (by decide) (by decide) (Nat.div_lt_of_lt_mul small),
      milli exact]
  · rw [fraction_paddedDigits 6 _ rest (by decide) (by decide) (Nat.div_lt_of_lt_mul small),
      micro exact]
  · rw [fraction_paddedDigits 9 _ rest (by decide) (by decide) small]
    exact congrArg (fun n => Except.ok (n, 'Z' :: rest)) (Nat.mul_one nano)

end Instant.Reader

namespace Instant

-- A leap second ends a minute, if the moment lies in one.
def EndsMinute (moment : Instant) : Prop :=
  1000000000 ≤ moment.nano → moment.second % 60 = 59

instance (moment : Instant) : Decidable moment.EndsMinute :=
  inferInstanceAs (Decidable (_ → _))

-- The moment that the text of a moment names: a leap second within a minute is not told from the
-- second behind it.
def shown (moment : Instant) : Instant :=
  if ends : moment.EndsMinute then moment
  else
    { second := moment.second + 1
      nano := moment.nano - 1000000000
      bounded := by
        obtain ⟨least, most, small⟩ := moment.bounded
        rw [EndsMinute] at ends
        rw [maxSecond] at most
        refine ⟨by omega, ?_, by omega⟩
        rw [maxSecond]
        omega }

theorem shown_of_endsMinute {moment : Instant} (ends : moment.EndsMinute) : moment.shown = moment :=
  dif_pos ends

theorem shown_parts {moment : Instant} (within : ¬ moment.EndsMinute) :
    moment.shown.second = moment.second + 1 ∧ moment.shown.nano + 1000000000 = moment.nano := by
  have late : 1000000000 ≤ moment.nano ∧ moment.second % 60 ≠ 59 := by
    rwa [EndsMinute, Classical.not_imp] at within
  rw [shown, dif_neg within]
  exact ⟨rfl, Nat.sub_add_cancel late.1⟩

theorem shown_endsMinute (moment : Instant) : moment.shown.EndsMinute := by
  by_cases ends : moment.EndsMinute
  · rwa [shown_of_endsMinute ends]
  · have nano := (shown_parts ends).2
    have small := moment.bounded.2.2
    intro late
    omega

theorem shown_eq_iff (moment : Instant) : moment.shown = moment ↔ moment.EndsMinute := by
  refine ⟨fun same => same ▸ moment.shown_endsMinute, shown_of_endsMinute⟩

theorem text_shown (moment : Instant) : moment.shown.text = moment.text := by
  by_cases ends : moment.EndsMinute
  · rw [shown_of_endsMinute ends]
  · obtain ⟨second, nano⟩ := shown_parts ends
    have small := moment.bounded.2.2
    rw [EndsMinute, Classical.not_imp] at ends
    -- The second behind lies in the same minute.
    have day : moment.shown.second / 86400 = moment.second / 86400 := by omega
    have date : moment.shown.date = moment.date := congrArg Date.ofDays day
    have ofDay : moment.shown.secondOfDay = moment.secondOfDay + 1 := by
      rw [secondOfDay, secondOfDay]
      omega
    have inMinute : moment.secondOfDay % 60 < 59 := by
      rw [secondOfDay]
      omega
    have hour : moment.shown.secondOfDay / 3600 = moment.secondOfDay / 3600 := by omega
    have minute : moment.shown.secondOfDay / 60 = moment.secondOfDay / 60 := by omega
    have ofMinute : moment.shown.secondOfMinute = moment.secondOfMinute := by
      rw [secondOfMinute, secondOfMinute]
      omega
    have subsecond : moment.shown.subsecond = moment.subsecond := by
      rw [subsecond, subsecond]
      omega
    rw [text, text, secondText, secondText, date, hour, minute, ofMinute, subsecond]

-- The start of the second that a moment lies in. A leap second is a second of its own.
def wholeSecond (moment : Instant) : Instant where
  second := moment.second
  nano := moment.nano / 1000000000 * 1000000000
  bounded := by
    obtain ⟨least, most, small⟩ := moment.bounded
    exact ⟨least, most, by omega⟩

theorem ofParts?_self (moment : Instant) : ofParts? moment.second moment.nano = some moment := by
  rw [ofParts?, dif_pos moment.bounded]

theorem date_valid (moment : Instant) :
    moment.date.Valid ∧ -262143 ≤ moment.date.year ∧ moment.date.year ≤ 262142 := by
  obtain ⟨least, most, -⟩ := moment.bounded
  rw [minSecond] at least
  rw [maxSecond] at most
  exact ⟨Date.ofDays_valid _, Date.ofDays_year _ (by omega) (by omega)⟩

theorem assemble_parts (moment : Instant) (leap : moment.EndsMinute) :
    Reader.assemble moment.date (moment.secondOfDay / 3600) (moment.secondOfDay / 60 % 60)
      moment.secondOfMinute moment.subsecond 0 = .ok moment := by
  obtain ⟨valid, least, most⟩ := moment.date_valid
  have small := moment.bounded.2.2
  rw [EndsMinute] at leap
  have days : moment.date.toDays = moment.second / 86400 := Date.toDays_ofDays _
  have made := moment.ofParts?_self
  have ofDay : (moment.secondOfDay : Int) = moment.second % 86400 := by
    rw [secondOfDay]
    omega
  rw [Reader.assemble, if_pos ⟨valid, least, most, by decide⟩, days]
  by_cases late : 1000000000 ≤ moment.nano
  · -- The sixty-first second is read as the nanoseconds of a leap second.
    have full : moment.secondOfMinute = 60 := by
      rw [secondOfMinute]
      omega
    have nano : moment.subsecond + 1000000000 = moment.nano := by
      rw [subsecond]
      omega
    have second : moment.second / 86400 * 86400 + (moment.secondOfDay / 3600 * 3600 +
        moment.secondOfDay / 60 % 60 * 60 + 59 : Nat) - 0 = moment.second := by omega
    simp only [full, if_true, second, nano, made]
  · have part : moment.secondOfMinute = moment.secondOfDay % 60 := by
      rw [secondOfMinute]
      omega
    have other : moment.secondOfDay % 60 ≠ 60 := by omega
    have nano : moment.subsecond = moment.nano := by
      rw [subsecond]
      omega
    have second : moment.second / 86400 * 86400 + (moment.secondOfDay / 3600 * 3600 +
        moment.secondOfDay / 60 % 60 * 60 + moment.secondOfDay % 60 : Nat) - 0 = moment.second := by
      omega
    simp only [part, other, if_false, second, nano, made]

theorem read_text_of_endsMinute (moment : Instant) (leap : moment.EndsMinute) :
    Instant.read moment.text = .ok moment := by
  obtain ⟨⟨month_pos, month_le, day_pos, day_le⟩, least, most⟩ := moment.date_valid
  have small := moment.bounded.2.2
  have leap' := leap
  rw [EndsMinute] at leap'
  have month_end : Date.monthLength moment.date.year moment.date.month ≤ 31 := by
    rw [Date.monthLength]
    split_ifs <;> decide
  have ofDay : moment.secondOfDay < 86400 := by
    rw [secondOfDay]
    omega
  have ofMinute : moment.secondOfMinute ≤ 60 := by
    rw [secondOfMinute, secondOfDay]
    omega
  -- Each field is read as it was written, whatever follows it.
  have month (rest : List Char) :=
    Reader.field_paddedDigits 1 12 moment.date.month rest month_pos month_le (by decide)
  have day (rest : List Char) :=
    Reader.field_paddedDigits 1 31 moment.date.day rest day_pos (day_le.trans month_end) (by decide)
  have hour (rest : List Char) :=
    Reader.field_paddedDigits 0 23 (moment.secondOfDay / 3600) rest (Nat.zero_le _) (by omega)
      (by decide)
  have minute (rest : List Char) :=
    Reader.field_paddedDigits 0 59 (moment.secondOfDay / 60 % 60) rest (Nat.zero_le _) (by omega)
      (by decide)
  have second (rest : List Char) :=
    Reader.field_paddedDigits 0 60 moment.secondOfMinute rest (Nat.zero_le _) ofMinute (by decide)
  have hyphen (rest : List Char) := Reader.separator_cons '-' rest (by decide)
  have colon (rest : List Char) := Reader.separator_cons ':' rest (by decide)
  have letter (rest : List Char) : Reader.middle ('T' :: rest) = .ok ((), rest) := rfl
  have fraction := Reader.fraction_fractionText moment.subsecond [] (Nat.mod_lt _ (by decide))
  have offset : Reader.offset (Text.trimLeft ['Z']) = .ok (0, []) := rfl
  have nothing : (Text.trimLeft []).isEmpty = true := rfl
  rw [Instant.read, text, String.toList_ofList, secondText]
  simp only [List.append_assoc, List.cons_append]
  rw [Reader.year_yearText _ _ least most]
  simp only [bind, Except.bind, hyphen, month, day, letter, hour, colon, minute, second, fraction,
    offset, nothing, Bool.not_true, Bool.false_eq_true, if_false]
  exact moment.assemble_parts leap

theorem read_text (moment : Instant) : Instant.read moment.text = .ok moment.shown := by
  rw [← text_shown]
  exact read_text_of_endsMinute _ moment.shown_endsMinute

theorem secondText_wholeSecond (moment : Instant) :
    moment.wholeSecond.secondText = moment.secondText := by
  have date : moment.wholeSecond.date = moment.date := rfl
  have ofDay : moment.wholeSecond.secondOfDay = moment.secondOfDay := rfl
  have ofMinute : moment.wholeSecond.secondOfMinute = moment.secondOfMinute := by
    rw [secondOfMinute, secondOfMinute, ofDay]
    simp [wholeSecond]
  rw [secondText, secondText, date, ofDay, ofMinute]

theorem wholeText_wholeSecond (moment : Instant) :
    moment.wholeSecond.wholeText = moment.wholeText := by
  rw [wholeText, wholeText, secondText_wholeSecond]

theorem text_wholeSecond (moment : Instant) : moment.wholeSecond.text = moment.wholeText := by
  have whole : moment.wholeSecond.subsecond = 0 := Nat.mul_mod_left _ _
  rw [text, wholeText, secondText_wholeSecond, whole, fractionText, if_pos rfl, List.append_nil]

theorem read_wholeText (moment : Instant) (leap : moment.EndsMinute) :
    Instant.read moment.wholeText = .ok moment.wholeSecond := by
  have ends : moment.wholeSecond.EndsMinute := by
    intro late
    change 1000000000 ≤ moment.nano / 1000000000 * 1000000000 at late
    exact leap (by omega)
  rw [← text_wholeSecond]
  exact read_text_of_endsMinute _ ends

theorem yearText_unclosed (number : Int) : ∀ c ∈ yearText number, c ≠ ')' := by
  intro c member
  rw [yearText] at member
  split at member
  · exact paddedDigits_unclosed _ _ c member
  · rcases List.mem_cons.mp member with rfl | member
    · split <;> decide
    · exact paddedDigits_unclosed _ _ c member

theorem wholeText_unclosed (moment : Instant) : ∀ c ∈ moment.wholeText.toList, c ≠ ')' := by
  intro c member
  simp only [wholeText, secondText, String.toList_ofList, List.mem_append, List.mem_cons,
    List.not_mem_nil, or_false] at member
  rcases member with
    ((((((year | rfl | member) | rfl | member) | rfl | member) | rfl | member) | rfl | member) | rfl)
  case inl.inl.inl.inl.inl.inl => exact yearText_unclosed _ c year
  all_goals first | decide | exact paddedDigits_unclosed _ _ c member

end Instant

end FileSearch

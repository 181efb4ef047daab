import FileSearch.Time.Date
import Mathlib.Tactic.SplitIfs

set_option autoImplicit false

namespace FileSearch.Date

-- The date that lies `day` days after the first of March of a year.
def ofMarch (year : Int) (day : Nat) : Date :=
  let marchMonth := (5 * day + 2) / 153
  { year := if marchMonth < 10 then year else year + 1
    month := if marchMonth < 10 then marchMonth + 3 else marchMonth - 9
    day := day - (153 * marchMonth + 2) / 5 + 1 }

-- A place in an era of 400 years that begin in March: century, four years within it, year of the
-- four and day of the year. Only the year before a leap year has a day 365.
structure Places (century quad year day : Nat) : Prop where
  century_le : century ≤ 3
  quad_le : quad ≤ 24
  year_le : year ≤ 3
  day_le : day ≤ 365
  leap : day = 365 → year = 3 ∧ (quad = 24 → century = 3)

theorem ofDays_places (days : Int) : ∃ (era : Int) (century quad year day : Nat),
    Places century quad year day ∧
      days + 719468 = era * 146097 + (century * 36524 + quad * 1461 + year * 365 + day : Nat) ∧
      ofDays days = ofMarch (era * 400 + (century * 100 + quad * 4 + year : Nat)) day := by
  obtain ⟨n, remainder⟩ : ∃ n : Nat, ((days + 719468) % 146097).toNat = n := ⟨_, rfl⟩
  obtain ⟨century, centuryIs⟩ : ∃ century, min (n / 36524) 3 = century := ⟨_, rfl⟩
  obtain ⟨quad, quadIs⟩ : ∃ quad, (n - century * 36524) / 1461 = quad := ⟨_, rfl⟩
  obtain ⟨year, yearIs⟩ : ∃ year, min ((n - century * 36524 - quad * 1461) / 365) 3 = year :=
    ⟨_, rfl⟩
  obtain ⟨day, dayIs⟩ : ∃ day, n - century * 36524 - quad * 1461 - year * 365 = day := ⟨_, rfl⟩
  have made : ofDays days =
      ofMarch ((days + 719468) / 146097 * 400 + (century * 100 + quad * 4 + year : Nat)) day := by
    simp only [ofDays, remainder, centuryIs, quadIs, yearIs, dayIs]
    rfl
  have small : n < 146097 := by omega
  have split : days + 719468 = (days + 719468) / 146097 * 146097 + n := by omega
  have sum : n = century * 36524 + quad * 1461 + year * 365 + day := by omega
  refine ⟨_, century, quad, year, day, ?_, by rw [← sum, ← split], made⟩
  constructor <;> omega

theorem isLeapYear_iff (year : Int) :
    isLeapYear year = true ↔ year % 4 = 0 ∧ (year % 100 ≠ 0 ∨ year % 400 = 0) := by
  simp [isLeapYear]

theorem Places.isLeapYear {century quad year day : Nat} (places : Places century quad year day)
    (era : Int) (last : day = 365) :
    Date.isLeapYear (era * 400 + (century * 100 + quad * 4 + year : Nat) + 1) = true := by
  obtain ⟨fourth, century_of⟩ := places.leap last
  have := places.quad_le
  have := places.century_le
  rw [isLeapYear_iff]
  by_cases end' : quad = 24
  · have := century_of end'
    omega
  · omega

theorem march_months : ∀ day : Fin 366,
    let month := (5 * day.val + 2) / 153
    month ≤ 11 ∧ (153 * month + 2) / 5 ≤ day.val ∧
      day.val - (153 * month + 2) / 5 <
        if month = 11 then (if day.val = 365 then 29 else 28)
        else if month = 1 ∨ month = 3 ∨ month = 6 ∨ month = 8 then 30 else 31 := by
  decide +kernel

theorem ofMarch_valid (year : Int) (day : Nat) (small : day ≤ 365)
    (leap : day = 365 → isLeapYear (year + 1) = true) : (ofMarch year day).Valid := by
  obtain ⟨month_le, month_start, month_end⟩ := march_months ⟨day, by omega⟩
  obtain ⟨month, monthIs⟩ : ∃ month, (5 * day + 2) / 153 = month := ⟨_, rfl⟩
  simp only [Valid, ofMarch, monthIs] at month_le month_start month_end ⊢
  by_cases february : month = 11
  · subst february
    by_cases last : day = 365
    · simp [monthLength, leap last, last]
    · simp [last] at month_end
      simp [monthLength]
      split <;> omega
  · simp [monthLength, february] at month_end ⊢
    split_ifs at month_end ⊢ <;> omega

theorem toDays_ofMarch (year : Int) (day : Nat) (small : day ≤ 365) :
    (ofMarch year day).toDays =
      year / 400 * 146097 +
        ((year % 400).toNat * 365 + (year % 400).toNat / 4 - (year % 400).toNat / 100 + day : Nat) -
        719468 := by
  obtain ⟨month_le, month_start, month_end⟩ := march_months ⟨day, by omega⟩
  obtain ⟨month, monthIs⟩ : ∃ month, (5 * day + 2) / 153 = month := ⟨_, rfl⟩
  simp only [toDays, ofMarch, monthIs] at month_le month_start month_end ⊢
  by_cases early : month < 10
  · have number : (month + 3 + 9) % 12 = month := by omega
    have late : ¬ month + 3 ≤ 2 := by omega
    simp only [early, if_true, late, if_false, number]
    omega
  · have number : (month - 9 + 9) % 12 = month := by omega
    have late : month - 9 ≤ 2 := by omega
    simp only [early, if_false, late, if_true, number]
    have back : year + 1 - 1 = year := by omega
    rw [back]
    omega

theorem ofDays_valid (days : Int) : (ofDays days).Valid := by
  obtain ⟨era, century, quad, year, day, places, -, made⟩ := ofDays_places days
  rw [made]
  exact ofMarch_valid _ day places.day_le (places.isLeapYear era)

theorem toDays_ofDays (days : Int) : (ofDays days).toDays = days := by
  obtain ⟨era, century, quad, year, day, places, split, made⟩ := ofDays_places days
  obtain ⟨century_le, quad_le, year_le, day_le, -⟩ := places
  rw [made, toDays_ofMarch _ day day_le]
  have whole : (era * 400 + (century * 100 + quad * 4 + year : Nat) : Int) / 400 = era := by omega
  have rest : ((era * 400 + (century * 100 + quad * 4 + year : Nat) : Int) % 400).toNat =
      century * 100 + quad * 4 + year := by omega
  rw [whole, rest]
  omega

theorem ofDays_year (days : Int) (least : -96465292 ≤ days) (most : days ≤ 95026236) :
    -262143 ≤ (ofDays days).year ∧ (ofDays days).year ≤ 262142 := by
  obtain ⟨era, century, quad, year, day, places, split, made⟩ := ofDays_places days
  obtain ⟨century_le, quad_le, year_le, day_le, -⟩ := places
  have first : -656 ≤ era := by omega
  have last : era ≤ 655 := by omega
  have january : day < 306 → (5 * day + 2) / 153 < 10 := by omega
  rw [made]
  simp only [ofMarch]
  constructor
  · split <;> omega
  · have latest : era = 655 → century ≤ 1 ∧ (century = 1 → quad ≤ 10 ∧ (quad = 10 → year ≤ 2 ∧
        (year = 2 → day < 306))) := by omega
    split <;> omega

end FileSearch.Date

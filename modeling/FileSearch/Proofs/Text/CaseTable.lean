import FileSearch.Text.Lowercase
import FileSearch.Text.Utf8
import Mathlib.Data.List.Basic
import Mathlib.Data.Int.GCD

set_option autoImplicit false

namespace FileSearch.Text

def CaseShift.Holds (entry : CaseShift) (code : Nat) : Prop :=
  entry.first ≤ code ∧ code ≤ entry.last ∧ (code - entry.first) % entry.step = 0

def CaseShift.image (entry : CaseShift) : Nat :=
  (entry.first + entry.shift).toNat

-- Whether no lower case that `entry` gives has a lower case of its own by `other`: it lies outside
-- of its range, or between the steps that it takes.
def CaseShift.avoids (entry other : CaseShift) : Bool :=
  Nat.blt (entry.image + (entry.last - entry.first)) other.first || Nat.blt other.last entry.image ||
    (entry.first == entry.last || entry.step % other.step == 0) &&
      ((entry.image : Int) - other.first) % other.step != 0

theorem CaseShift.avoids_correct (entry other : CaseShift) (code : Nat)
    (positive : 0 ≤ entry.first + entry.shift) (avoided : entry.avoids other = true)
    (holds : entry.Holds code) : ¬ other.Holds (code + entry.shift).toNat := by
  obtain ⟨least, most, inStep⟩ := holds
  rintro ⟨otherLeast, otherMost, otherStep⟩
  have start : (entry.image : Int) = entry.first + entry.shift := Int.toNat_of_nonneg positive
  -- Below the range of the other entry, above it, or at another remainder of its step.
  simp only [avoids, Bool.and_eq_true, Bool.or_eq_true, Nat.blt_eq, beq_iff_eq,
    bne_iff_ne] at avoided
  obtain (below | above) | ⟨dense, apart⟩ := avoided
  · omega
  · omega
  · have target : ((code + entry.shift).toNat : Int) = code + entry.shift := by omega
    have whole : (other.step : Int) ∣ code - entry.first := by
      rcases dense with single | dense
      · exact ⟨0, by omega⟩
      · have nat : other.step ∣ code - entry.first :=
          (Nat.dvd_of_mod_eq_zero dense).trans (Nat.dvd_of_mod_eq_zero inStep)
        have int := Int.natCast_dvd_natCast.mpr nat
        rwa [Int.natCast_sub least] at int
    have otherWhole : (other.step : Int) ∣ code + entry.shift - other.first := by
      have int := Int.natCast_dvd_natCast.mpr (Nat.dvd_of_mod_eq_zero otherStep)
      rwa [Int.natCast_sub otherLeast, target] at int
    apply apart
    have difference := Int.dvd_sub otherWhole whole
    rw [show (code : Int) + entry.shift - other.first - (code - entry.first) =
      entry.image - other.first by omega] at difference
    exact Int.emod_eq_zero_of_dvd difference

theorem shiftCode_cases (code : Nat) (table : List CaseShift) :
    shiftCode code table = code ∨
      ∃ entry ∈ table, entry.Holds code ∧ shiftCode code table = (code + entry.shift).toNat := by
  induction table with
  | nil => exact .inl rfl
  | cons entry rest ih =>
    simp only [shiftCode]
    split_ifs with below here
    · exact .inl rfl
    · exact .inr ⟨entry, List.mem_cons_self, ⟨by omega, here.1, here.2⟩, rfl⟩
    · rcases ih with same | ⟨other, member, found⟩
      · exact .inl same
      · exact .inr ⟨other, List.mem_cons_of_mem _ member, found⟩

theorem shiftCode_eq_self (code : Nat) (table : List CaseShift)
    (none : ∀ entry ∈ table, ¬ entry.Holds code) : shiftCode code table = code := by
  rcases shiftCode_cases code table with same | ⟨entry, member, holds, -⟩
  · exact same
  · exact absurd holds (none entry member)

-- The capital letters that are lowered without the table, and the replacement character.
def untabled : List CaseShift :=
  [⟨0x41, 0x5a, 1, 32⟩, ⟨0x130, 0x130, 1, 0⟩, ⟨0x3a3, 0x3a3, 1, 0⟩, ⟨0xfffd, 0xfffd, 1, 0⟩]

theorem lowerShifts_avoid :
    (lowerShifts.all fun entry => decide (0 ≤ entry.first + entry.shift) &&
      (untabled ++ lowerShifts).all entry.avoids) = true := by
  decide +kernel

-- Whether lowering a text leaves a character alone, wherever it stands.
def IsLow (c : Char) : Prop := lowerChar c = c ∧ c ≠ 'Σ' ∧ c ≠ 'İ'

instance (c : Char) : Decidable (IsLow c) :=
  inferInstanceAs (Decidable (_ ∧ _))

theorem lowerChar_small : ∀ code : Fin 128, ¬ (0x41 ≤ code.val ∧ code.val ≤ 0x5a) →
    lowerChar (Char.ofNat code) = Char.ofNat code := by
  decide +kernel

theorem lowerChar_ascii : ∀ code : Fin 128,
    IsLow (lowerChar (Char.ofNat code)) ∧ lowerChar (Char.ofNat code) ≠ replacement := by
  decide +kernel

theorem lowerChar_large (c : Char) (large : 0x80 ≤ c.toNat) :
    lowerChar c = Char.ofNat (shiftCode c.toNat lowerShifts) := by
  rw [lowerChar, if_neg (by omega)]

theorem lowerShifts_avoid_holds (entry other : CaseShift) (code : Nat)
    (member : entry ∈ lowerShifts) (known : other ∈ untabled ++ lowerShifts)
    (holds : entry.Holds code) : ¬ other.Holds (code + entry.shift).toNat := by
  have checked := List.all_eq_true.mp lowerShifts_avoid entry member
  rw [Bool.and_eq_true, decide_eq_true_eq] at checked
  exact entry.avoids_correct other code checked.1 (List.all_eq_true.mp checked.2 other known) holds

theorem toNat_ofNat_or (code : Nat) : (Char.ofNat code).toNat = code ∨ Char.ofNat code = '\x00' := by
  by_cases valid : code.isValidChar
  · rw [Char.ofNat, dif_pos valid]
    exact .inl rfl
  · rw [Char.ofNat, dif_neg valid]
    exact .inr rfl

theorem lowerChar_shifted (entry : CaseShift) (code : Nat) (member : entry ∈ lowerShifts)
    (holds : entry.Holds code) :
    IsLow (Char.ofNat (code + entry.shift).toNat) ∧
      Char.ofNat (code + entry.shift).toNat ≠ replacement := by
  have avoided := fun other known =>
    lowerShifts_avoid_holds entry other code member known holds
  -- Where the lower case came from does not matter any more.
  generalize (code + entry.shift).toNat = target at avoided
  rcases toNat_ofNat_or target with same | zero
  · have exceptions : ∀ other ∈ untabled, ¬ other.Holds target := fun other known =>
      avoided other (List.mem_append_left _ known)
    have tabled : shiftCode target lowerShifts = target :=
      shiftCode_eq_self target lowerShifts fun other known =>
        avoided other (List.mem_append_right _ known)
    simp only [untabled, List.forall_mem_cons, List.not_mem_nil, false_implies, implies_true, and_true,
      CaseShift.Holds, Nat.mod_one] at exceptions
    obtain ⟨capital, dotted, sigma, replaced⟩ := exceptions
    refine ⟨⟨?_, ?_, ?_⟩, ?_⟩
    · by_cases small : target < 0x80
      · exact lowerChar_small ⟨target, small⟩ capital
      · rw [lowerChar_large _ (by omega), same, tabled]
    · intro equal
      exact sigma (by rw [← same, equal]; decide)
    · intro equal
      exact dotted (by rw [← same, equal]; decide)
    · intro equal
      exact replaced (by rw [← same, equal]; decide)
  · -- What is no code point is read as the character zero, which is low.
    rw [zero]
    unfold IsLow
    decide

theorem lowerChar_isLow (c : Char) (sigma : c ≠ 'Σ') (dotted : c ≠ 'İ') : IsLow (lowerChar c) := by
  by_cases small : c.toNat < 0x80
  · have ascii := (lowerChar_ascii ⟨c.toNat, small⟩).1
    rwa [Char.ofNat_toNat] at ascii
  rw [lowerChar_large c (by omega)]
  rcases shiftCode_cases c.toNat lowerShifts with same | ⟨entry, member, holds, shifted⟩
  · rw [same, Char.ofNat_toNat]
    exact ⟨by rw [lowerChar_large c (by omega), same, Char.ofNat_toNat], sigma, dotted⟩
  · rw [shifted]
    exact (lowerChar_shifted entry c.toNat member holds).1

theorem lowerChar_ne_replacement (c : Char) (other : c ≠ replacement) : lowerChar c ≠ replacement := by
  by_cases small : c.toNat < 0x80
  · have ascii := (lowerChar_ascii ⟨c.toNat, small⟩).2
    rwa [Char.ofNat_toNat] at ascii
  rw [lowerChar_large c (by omega)]
  rcases shiftCode_cases c.toNat lowerShifts with same | ⟨entry, member, holds, shifted⟩
  · rwa [same, Char.ofNat_toNat]
  · rw [shifted]
    exact (lowerChar_shifted entry c.toNat member holds).2

theorem lowerShifts_above_dot :
    (lowerShifts.all fun entry => decide (('.'.toNat : Int) < entry.first + entry.shift)) = true := by
  decide +kernel

theorem lowerChar_ascii_ne_dot : ∀ code : Fin 128, Char.ofNat code ≠ '.' →
    lowerChar (Char.ofNat code) ≠ '.' := by
  decide +kernel

theorem lowerChar_ne_dot (c : Char) (other : c ≠ '.') : lowerChar c ≠ '.' := by
  by_cases small : c.toNat < 0x80
  · have ascii := lowerChar_ascii_ne_dot ⟨c.toNat, small⟩
    rw [Char.ofNat_toNat] at ascii
    exact ascii other
  rw [lowerChar_large c (by omega)]
  rcases shiftCode_cases c.toNat lowerShifts with same | ⟨entry, member, holds, shifted⟩
  · rwa [same, Char.ofNat_toNat]
  · -- The table leads to letters only, and all of them have greater codes.
    have above := List.all_eq_true.mp lowerShifts_above_dot entry member
    rw [decide_eq_true_eq] at above
    have least := holds.1
    intro dot
    rw [shifted] at dot
    rcases toNat_ofNat_or (c.toNat + entry.shift).toNat with same | zero
    · rw [dot] at same
      omega
    · rw [zero] at dot
      exact absurd dot (by decide)

end FileSearch.Text

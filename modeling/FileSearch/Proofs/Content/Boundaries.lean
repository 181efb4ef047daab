import FileSearch.Proofs.Content.Window
import Mathlib.Algebra.Group.Nat.Defs
import Mathlib.Order.Bounds.Defs

set_option autoImplicit false

namespace FileSearch.Content

open Text

theorem utf8ByteSize_eq (text : String) : text.utf8ByteSize = (encode text.toList).length := by
  rw [← toUTF8_toList]
  rfl

theorem isValid_iff (text : String) (place : Nat) :
    (⟨place⟩ : String.Pos.Raw).IsValid text ↔
      ∃ front, front <+: text.toList ∧ (encode front).length = place := by
  rw [String.Pos.Raw.isValid_iff_exists_append]
  constructor
  · rintro ⟨front, back, rfl, ends⟩
    have length : place = front.utf8ByteSize := congrArg String.Pos.Raw.byteIdx ends
    refine ⟨front.toList, ?_, by rw [length, utf8ByteSize_eq]⟩
    rw [String.toList_append]
    exact List.prefix_append _ _
  · rintro ⟨front, ⟨back, split⟩, rfl⟩
    refine ⟨String.ofList front, String.ofList back, ?_, ?_⟩
    · rw [← String.ofList_append, split, String.ofList_toList]
    · have length := utf8ByteSize_eq (String.ofList front)
      rw [String.toList_ofList] at length
      rw [← length]
      rfl

theorem encode_le_completeLength (text : List Char) (back : List UInt8) :
    (encode text).length ≤ completeLength (encode text ++ back) := by
  rcases List.eq_nil_or_concat text with rfl | ⟨front, c, rfl⟩
  · exact Nat.zero_le _
  · have whole := le_completeLength (encode front) back c
    simpa using whole

theorem completeLength_take_isGreatest (text : String) (cut : Nat) :
    IsGreatest {place | place ≤ cut ∧ (⟨place⟩ : String.Pos.Raw).IsValid text}
      (completeLength (text.toUTF8.data.toList.take cut)) := by
  rw [toUTF8_toList]
  constructor
  · have split := List.take_append_drop cut (encode text.toList)
    obtain ⟨left, right, joined, length, -⟩ := completeLength_encode _ _ _ split
    have most := completeLength_le ((encode text.toList).take cut)
    have short := List.length_take_le cut (encode text.toList)
    exact ⟨most.trans short, (isValid_iff text _).mpr ⟨left, ⟨right, joined.symm⟩, length.symm⟩⟩
  · rintro place ⟨early, valid⟩
    obtain ⟨front, ⟨back, split⟩, rfl⟩ := (isValid_iff text place).mp valid
    have behind : (encode text.toList).take cut =
        encode front ++ (encode back).take (cut - (encode front).length) := by
      rw [← split, encode_append, List.take_append, List.take_of_length_le early]
    rw [behind]
    exact encode_le_completeLength front _

theorem overlapStart_splits (text : String) (count : Nat) :
    ∃ front back, text = front ++ back ∧ back.length = min count text.length ∧
      overlapStart text.toUTF8.data.toList count = front.utf8ByteSize := by
  refine ⟨String.ofList (text.toList.take (text.length - count)),
    String.ofList (text.toList.drop (text.length - count)), ?_, ?_, ?_⟩
  · rw [← String.ofList_append, List.take_append_drop, String.ofList_toList]
  · rw [String.length_ofList, List.length_drop, String.length_toList]
    omega
  · rw [toUTF8_toList, overlapStart_encode, utf8ByteSize_eq, String.toList_ofList,
      String.length_toList]

-- Below the bound the budget does not run over.
theorem overlapStartWord_eq (bytes : List UInt8) (count : UInt64) (counted : count.toNat < 2 ^ 62) :
    overlapStartWord bytes count = overlapStart bytes count.toNat := by
  have budget : (count * UInt64.ofNat maxWidth).toNat = count.toNat * maxWidth := by
    have width : (UInt64.ofNat maxWidth).toNat = maxWidth := rfl
    rw [UInt64.toNat_mul, width]
    apply Nat.mod_eq_of_lt
    rw [maxWidth]
    omega
  rw [overlapStartWord, overlapStart, budget]

/-- The bytes of a text are cut between its characters, both where a window ends and where the
next one begins. -/
theorem cut_between_characters (text : String) (cut : Nat) (count : UInt64)
    (counted : count.toNat < 2 ^ 62) :
    IsGreatest {place | place ≤ cut ∧ (⟨place⟩ : String.Pos.Raw).IsValid text}
        (completeLength (text.toUTF8.data.toList.take cut)) ∧
      ∃ front back, text = front ++ back ∧ back.length = min count.toNat text.length ∧
        overlapStartWord text.toUTF8.data.toList count = front.utf8ByteSize := by
  rw [overlapStartWord_eq _ count counted]
  exact ⟨completeLength_take_isGreatest text cut, overlapStart_splits text count.toNat⟩

theorem euro_cut_off :
    (2 : UInt64).toNat < 2 ^ 62 ∧
      IsGreatest {place | place ≤ 3 ∧ (⟨place⟩ : String.Pos.Raw).IsValid "a€b"} 1 ∧
      ∃ front back, "a€b" = front ++ back ∧ back.length = 2 ∧ front.utf8ByteSize = 1 := by
  have counted : (2 : UInt64).toNat < 2 ^ 62 := by decide
  obtain ⟨greatest, front, back, split, length, start⟩ := cut_between_characters "a€b" 3 2 counted
  exact ⟨counted, greatest, front, back, split, length, start.symm⟩

-- From the bound on the budget runs over, and there is no overlap.
example : overlapStartWord [0x61, 0x62] 4611686018427387904 = 2 := by decide +kernel

end FileSearch.Content

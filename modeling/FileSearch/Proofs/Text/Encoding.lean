import FileSearch.Content.Window
import Mathlib.Data.List.Basic

set_option autoImplicit false

namespace FileSearch.Text

open Content

def encode (text : List Char) : List UInt8 :=
  text.flatMap String.utf8EncodeChar

@[simp] theorem encode_nil : encode [] = [] := rfl

@[simp] theorem encode_cons (c : Char) (text : List Char) :
    encode (c :: text) = String.utf8EncodeChar c ++ encode text := rfl

@[simp] theorem encode_append (front back : List Char) :
    encode (front ++ back) = encode front ++ encode back := by
  simp [encode]

theorem encode_split (text : List Char) (count : Nat) :
    encode (text.take count) ++ encode (text.drop count) = encode text := by
  rw [← encode_append, List.take_append_drop]

theorem encode_drop (text : List Char) (count : Nat) :
    (encode text).drop (encode (text.take count)).length = encode (text.drop count) := by
  rw [← encode_split text count, List.drop_left]

theorem letters_length (letters : Nat) :
    (encode (List.replicate letters 'a')).length = letters := by
  induction letters with
  | zero => rfl
  | succ letters ih =>
    rw [List.replicate_succ, encode_cons, List.length_append, ih]
    exact Nat.add_comm 1 letters

theorem toUTF8_toList (text : String) : text.toUTF8.data.toList = encode text.toList := by
  have bytes : text.toUTF8 = text.toList.utf8Encode := (String.utf8Encode_toList).symm
  rw [bytes, List.utf8Encode, List.toList_data_toByteArray]
  rfl

theorem isContinuation_iff (byte : UInt8) :
    isContinuation byte = true ↔ 0x80 ≤ byte.toNat ∧ byte.toNat < 0xc0 := by
  -- There are few enough bytes to look at each of them.
  have every : ∀ value : Fin 256, isContinuation (UInt8.ofNat value.val) = true ↔
      0x80 ≤ value.val ∧ value.val < 0xc0 := by decide +kernel
  simpa using every ⟨byte.toNat, byte.toNat_lt⟩

theorem toNat_valid (c : Char) : c.toNat < 0xd800 ∨ 0xdfff < c.toNat ∧ c.toNat < 0x110000 := c.valid

theorem encodeChar_cases (c : Char) :
    (∃ a, String.utf8EncodeChar c = [a] ∧ c.toNat < 0x80 ∧ a.toNat = c.toNat) ∨
    (∃ a b, String.utf8EncodeChar c = [a, b] ∧ 0x80 ≤ c.toNat ∧ c.toNat < 0x800 ∧
      a.toNat = c.toNat / 64 + 0xc0 ∧ b.toNat = c.toNat % 64 + 0x80) ∨
    (∃ a b d, String.utf8EncodeChar c = [a, b, d] ∧ 0x800 ≤ c.toNat ∧ c.toNat < 0x10000 ∧
      a.toNat = c.toNat / 4096 + 0xe0 ∧ b.toNat = c.toNat / 64 % 64 + 0x80 ∧
      d.toNat = c.toNat % 64 + 0x80) ∨
    ∃ a b d e, String.utf8EncodeChar c = [a, b, d, e] ∧ 0x10000 ≤ c.toNat ∧
      a.toNat = c.toNat / 262144 + 0xf0 ∧ b.toNat = c.toNat / 4096 % 64 + 0x80 ∧
      d.toNat = c.toNat / 64 % 64 + 0x80 ∧ e.toNat = c.toNat % 64 + 0x80 := by
  have valid := toNat_valid c
  have same : c.val.toNat = c.toNat := rfl
  simp only [String.utf8EncodeChar, same]
  -- Only the code point counts from here on, so that the bytes are plain arithmetic.
  generalize c.toNat = code at valid
  split_ifs with one two three
  · exact .inl ⟨_, rfl, by omega, by simp; omega⟩
  · exact .inr (.inl ⟨_, _, rfl, by omega, by omega, by simp; omega, by simp; omega⟩)
  · exact .inr (.inr (.inl ⟨_, _, _, rfl, by omega, by omega, by simp; omega, by simp; omega,
      by simp; omega⟩))
  · exact .inr (.inr (.inr ⟨_, _, _, _, rfl, by omega, by simp; omega, by simp; omega,
      by simp; omega, by simp; omega⟩))

theorem widthOf_eq (lead : UInt8) : widthOf lead =
    if lead.toNat < 0xc0 then 1 else if lead.toNat < 0xe0 then 2 else if lead.toNat < 0xf0 then 3
    else if lead.toNat < 0xf8 then 4 else 1 := by
  simp [widthOf, UInt8.lt_iff_toNat_lt]

theorem encodeChar_shape (c : Char) :
    ∃ lead tail, String.utf8EncodeChar c = lead :: tail ∧ isContinuation lead = false ∧
      (∀ byte ∈ tail, isContinuation byte = true) ∧ widthOf lead = tail.length + 1 ∧
      tail.length ≤ 3 := by
  have valid := toNat_valid c
  simp only [Bool.eq_false_iff, ne_eq, isContinuation_iff, widthOf_eq]
  rcases encodeChar_cases c with ⟨a, h, _, ha⟩ | ⟨a, b, h, _, _, ha, hb⟩ |
    ⟨a, b, d, h, _, _, ha, hb, hd⟩ | ⟨a, b, d, e, h, _, ha, hb, hd, he⟩
  · refine ⟨a, [], h, by omega, by simp, ?_, by simp⟩
    simp only [List.length_nil]
    split_ifs <;> omega
  · refine ⟨a, [b], h, by omega, by simp; omega, ?_, by simp⟩
    simp only [List.length_cons, List.length_nil]
    split_ifs <;> omega
  · refine ⟨a, [b, d], h, by omega, by simp; omega, ?_, by simp⟩
    simp only [List.length_cons, List.length_nil]
    split_ifs <;> omega
  · refine ⟨a, [b, d, e], h, by omega, by simp; omega, ?_, by simp⟩
    simp only [List.length_cons, List.length_nil]
    split_ifs <;> omega

theorem toNat_ofNat (code : Nat) (valid : code < 0xd800 ∨ 0xdfff < code ∧ code < 0x110000) :
    (Char.ofNat code).toNat = code := by
  rw [Char.ofNat, dif_pos valid]
  rfl

-- The other way round: bytes that a reader takes for a character are the bytes of that character.
theorem encodeChar_one (a : UInt8) (small : a.toNat < 0x80) :
    String.utf8EncodeChar (Char.ofNat a.toNat) = [a] := by
  have code := toNat_ofNat a.toNat (by omega)
  rcases encodeChar_cases (Char.ofNat a.toNat) with ⟨a', h, _, ha⟩ | ⟨a', b', h, _, _, ha, hb⟩ |
    ⟨a', b', d', h, _, _, ha, hb, hd⟩ | ⟨a', b', d', e', h, _, ha, hb, hd, he⟩
  · simp only [h, List.cons.injEq, and_true, ← UInt8.toNat_inj]
    omega
  all_goals omega

theorem encodeChar_two (a b : UInt8) (la : 0xc2 ≤ a.toNat) (ua : a.toNat < 0xe0)
    (lb : 0x80 ≤ b.toNat) (ub : b.toNat ≤ 0xbf) :
    String.utf8EncodeChar (Char.ofNat (a.toNat % 32 * 64 + b.toNat % 64)) = [a, b] := by
  have code := toNat_ofNat (a.toNat % 32 * 64 + b.toNat % 64) (by omega)
  rcases encodeChar_cases (Char.ofNat (a.toNat % 32 * 64 + b.toNat % 64)) with
    ⟨a', h, _, ha⟩ | ⟨a', b', h, _, _, ha, hb⟩ |
    ⟨a', b', d', h, _, _, ha, hb, hd⟩ | ⟨a', b', d', e', h, _, ha, hb, hd, he⟩
  · omega
  · simp only [h, List.cons.injEq, and_true, ← UInt8.toNat_inj]
    omega
  all_goals omega

theorem encodeChar_three (a b d : UInt8) (la : 0xe0 ≤ a.toNat) (ua : a.toNat < 0xf0)
    (lb : 0x80 ≤ b.toNat) (ub : b.toNat ≤ 0xbf) (low : a.toNat = 0xe0 → 0xa0 ≤ b.toNat)
    (high : a.toNat = 0xed → b.toNat ≤ 0x9f) (ld : 0x80 ≤ d.toNat) (ud : d.toNat ≤ 0xbf) :
    String.utf8EncodeChar
      (Char.ofNat ((a.toNat % 16 * 64 + b.toNat % 64) * 64 + d.toNat % 64)) = [a, b, d] := by
  have code := toNat_ofNat ((a.toNat % 16 * 64 + b.toNat % 64) * 64 + d.toNat % 64) (by omega)
  rcases encodeChar_cases (Char.ofNat ((a.toNat % 16 * 64 + b.toNat % 64) * 64 + d.toNat % 64)) with
    ⟨a', h, _, ha⟩ | ⟨a', b', h, _, _, ha, hb⟩ |
    ⟨a', b', d', h, _, _, ha, hb, hd⟩ | ⟨a', b', d', e', h, _, ha, hb, hd, he⟩
  · omega
  · omega
  · simp only [h, List.cons.injEq, and_true, ← UInt8.toNat_inj]
    omega
  · omega

theorem encodeChar_four (a b d e : UInt8) (la : 0xf0 ≤ a.toNat) (ua : a.toNat < 0xf5)
    (lb : 0x80 ≤ b.toNat) (ub : b.toNat ≤ 0xbf) (low : a.toNat = 0xf0 → 0x90 ≤ b.toNat)
    (high : a.toNat = 0xf4 → b.toNat ≤ 0x8f) (ld : 0x80 ≤ d.toNat) (ud : d.toNat ≤ 0xbf)
    (le : 0x80 ≤ e.toNat) (ue : e.toNat ≤ 0xbf) :
    String.utf8EncodeChar (Char.ofNat
      (((a.toNat % 8 * 64 + b.toNat % 64) * 64 + d.toNat % 64) * 64 + e.toNat % 64)) =
        [a, b, d, e] := by
  have code := toNat_ofNat
    (((a.toNat % 8 * 64 + b.toNat % 64) * 64 + d.toNat % 64) * 64 + e.toNat % 64) (by omega)
  rcases encodeChar_cases (Char.ofNat
      (((a.toNat % 8 * 64 + b.toNat % 64) * 64 + d.toNat % 64) * 64 + e.toNat % 64)) with
    ⟨a', h, _, ha⟩ | ⟨a', b', h, _, _, ha, hb⟩ |
    ⟨a', b', d', h, _, _, ha, hb, hd⟩ | ⟨a', b', d', e', h, _, ha, hb, hd, he⟩
  · omega
  · omega
  · omega
  · simp only [h, List.cons.injEq, and_true, ← UInt8.toNat_inj]
    omega

end FileSearch.Text

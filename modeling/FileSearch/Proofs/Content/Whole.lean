import FileSearch.Proofs.Content.Scan
import FileSearch.Proofs.Text.Decoding
import FileSearch.Proofs.Text.Lowercase

set_option autoImplicit false

namespace FileSearch.Content

open Text

-- Characters that contain a text wherever they stand. No more of them are needed than the text has.
structure Needle.Shows (needle : Needle) (block : List Char) : Prop where
  short : block.length ≤ needle.chars.length
  plain : 'Σ' ∉ block
  known : replacement ∉ needle.chars → replacement ∉ block
  found : needle.chars <:+: block.flatMap lowerPlain

theorem Needle.Shows.ne_nil {needle : Needle} {block : List Char} (shown : needle.Shows block)
    (some : needle.chars ≠ []) : block ≠ [] := by
  rintro rfl
  exact some (List.infix_nil.mp shown.found)

-- Whether bytes contain a text does not depend on how they are cut, only on the characters in them.
def Needle.Local (needle : Needle) (bytes : List UInt8) : Prop :=
  needle.isIn bytes = true ↔ ∃ block, needle.Shows block ∧ encode block <:+: bytes

theorem local_of_plain (needle : Needle) (bytes : List UInt8) (some : needle.chars ≠ [])
    (safe : 'Σ' ∉ decodeLossy bytes ∨ 'σ' ∉ needle.chars ∧ 'ς' ∉ needle.chars)
    (read : ∀ block, needle.Shows block → block <:+: decodeLossy bytes → encode block <:+: bytes) :
    needle.Local bytes := by
  rw [Needle.Local, Needle.isIn, hasSlice_iff, lower_eq, infix_lowerBetween_plain [] [] _ _ some safe]
  constructor
  · rintro ⟨block, inside, plain, known, short, found⟩
    have shown : needle.Shows block := ⟨short, plain, known, found⟩
    exact ⟨block, shown, read block shown inside⟩
  · rintro ⟨block, shown, front, back, rfl⟩
    exact ⟨block, decodeLossy_found front block back, shown.plain, shown.known, shown.short,
      shown.found⟩

theorem scanFrom_eq_isIn (needle : Needle) (file : ByteArray) (some : needle.chars ≠ [])
    (whole : needle.Local file.data.toList)
    (parts : ∀ window ∈ windowsFrom needle file [] 0, needle.Local window.bytes) :
    scanFrom needle file [] 0 = needle.isIn file.data.toList := by
  have begun := carries_start needle file
  rw [Bool.eq_iff_iff, scanFrom_eq_any, List.any_eq_true]
  -- A window and the whole file contain the text by the same few characters, which are in both.
  constructor
  · rintro ⟨window, looked, found⟩
    obtain ⟨block, shown, inside⟩ := (parts window looked).mp found
    obtain ⟨front, back, split, -⟩ := windowsFrom_part needle file [] [] 0 begun window looked
    exact whole.mpr ⟨block, shown, inside.trans ⟨front, back, split.symm⟩⟩
  · intro found
    obtain ⟨block, shown, front, back, split⟩ := whole.mp found
    obtain ⟨window, looked, before, after, inside, -⟩ :=
      windowsFrom_cover_whole needle file front back block (shown.ne_nil some) shown.short split.symm
    exact ⟨window, looked, (parts window looked).mpr ⟨block, shown, before, after, inside⟩⟩

theorem sigma_of_part (part whole : List UInt8) (inside : part <:+: whole)
    (sigma : 'Σ' ∈ decodeLossy part) : 'Σ' ∈ decodeLossy whole := by
  have alone : ['Σ'] <:+: decodeLossy part := (List.singleton_infix_iff _ _).mpr sigma
  rw [infix_decodeLossy _ _ (by decide)] at alone
  have found := (infix_decodeLossy whole ['Σ'] (by decide)).mpr (alone.trans inside)
  exact (List.singleton_infix_iff _ _).mp found

theorem ofText_some (needle : String) (some : needle ≠ "") : (Needle.ofText needle).chars ≠ [] := by
  apply lower_ne_nil
  intro empty
  exact some (String.toList_eq_nil_iff.mp empty)

theorem contains_file (bytes : ByteArray) (needle : String) (small : bytes.size ≤ maxFileSize)
    (some : needle ≠ "") :
    contains? (.file bytes) needle false = Option.some (scanFrom (.ofText needle) bytes [] 0) := by
  have full : needle.isEmpty = false := String.isEmpty_eq_false_iff.mpr some
  rw [contains?, if_neg Bool.false_ne_true, full, if_neg Bool.false_ne_true]
  exact if_neg (Nat.not_lt.mpr small)

/-- A scan of any file without a capital sigma answers what a look at its whole content would. -/
theorem contains_whole (bytes : ByteArray) (needle : String) (small : bytes.size ≤ maxFileSize)
    (plain : 'Σ' ∉ decodeLossy bytes.data.toList) (full : needle ≠ "")
    (known : replacement ∉ needle.toList) :
    contains? (.file bytes) needle false =
      some (decide (lower needle.toList <:+: lower (decodeLossy bytes.data.toList))) := by
  have chars := ofText_some needle full
  have lowered : replacement ∉ (Needle.ofText needle).chars :=
    replacement_notMem_lower needle.toList known
  have parted (part : List UInt8) (inside : part <:+: bytes.data.toList) :
      (Needle.ofText needle).Local part := by
    apply local_of_plain _ _ chars
    · exact .inl fun sigma => plain (sigma_of_part part _ inside sigma)
    · intro block shown found
      exact (infix_decodeLossy part block (shown.known lowered)).mp found
  have windows : ∀ window ∈ windowsFrom (.ofText needle) bytes [] 0,
      (Needle.ofText needle).Local window.bytes := by
    intro window looked
    obtain ⟨front, back, split, -⟩ :=
      windowsFrom_part _ bytes [] [] 0 (carries_start _ bytes) window looked
    exact parted _ ⟨front, back, split.symm⟩
  rw [contains_file bytes needle small full,
    scanFrom_eq_isIn (.ofText needle) bytes chars (parted _ List.infix_rfl) windows]
  congr 1
  rw [Bool.eq_iff_iff, decide_eq_true_iff, Needle.isIn, hasSlice_iff]
  rfl

-- The first read takes 65543 bytes: the letters, a stray byte, and half of the character that the
-- text begins with.
theorem contains_whole_across_reads :
    let letters := List.replicate 65541 'a'
    let bytes : ByteArray := ⟨(encode letters ++ [0xff, 0xc3, 0x89, 0x41, 0xe2, 0x82]).toArray⟩
    (Needle.ofText "éA").capacity = letters.length + 2 ∧
      contains? (.file bytes) "éA" false = some true := by
  intro letters bytes
  have small : bytes.size ≤ maxFileSize := by
    rw [ByteArray.size, List.size_toArray, List.length_append, letters_length]
    decide
  have reads : decodeLossy bytes.data.toList =
      letters ++ ['\ufffd', 'É', 'A', '\ufffd'] := by
    rw [List.toList_toArray, decodeLossy_encode_append]
    exact congrArg (letters ++ ·) (by decide +kernel)
  have plain : 'Σ' ∉ decodeLossy bytes.data.toList := by
    rw [reads, List.mem_append, not_or]
    exact ⟨fun member => absurd (List.eq_of_mem_replicate member) (by decide), by decide⟩
  have known : replacement ∉ "éA".toList := by decide +kernel
  refine ⟨by decide +kernel, ?_⟩
  rw [contains_whole bytes "éA" small plain (by decide) known, Option.some.injEq, decide_eq_true_iff]
  -- What is lowered behind the letters holds the lower case of the text.
  rw [lower_eq (decodeLossy _), lowerBetween_plain _ _ _ plain, reads, List.flatMap_append]
  have found : lower "éA".toList <:+:
      ['\ufffd', 'É', 'A', '\ufffd'].flatMap lowerPlain := by decide +kernel
  exact found.trans (List.suffix_append _ _).isInfix

end FileSearch.Content

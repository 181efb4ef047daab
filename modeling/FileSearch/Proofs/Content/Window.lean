import FileSearch.Proofs.Text.Encoding
import Mathlib.Data.List.Infix

set_option autoImplicit false

namespace FileSearch.Content

open Text

theorem backwards_eq (count : Nat) (bytes : List UInt8) :
    backwards count bytes = bytes.reverse.take count := by
  rw [backwards, List.reverse_drop]
  rcases Nat.le_total count bytes.length with short | long
  · rw [Nat.sub_sub_self short]
  · rw [Nat.sub_eq_zero_of_le long, Nat.sub_zero, List.take_of_length_le (by simp),
      List.take_of_length_le (by simpa using long)]

theorem cutOffBack_append (late rest : List UInt8) (seen : Nat)
    (continued : ∀ byte ∈ late, isContinuation byte = true) :
    cutOffBack (late ++ rest) seen = cutOffBack rest (seen + late.length) := by
  induction late generalizing seen with
  | nil => rfl
  | cons byte late ih =>
    rw [List.forall_mem_cons] at continued
    rw [List.cons_append, cutOffBack, if_pos continued.1, ih _ continued.2, List.length_cons]
    congr 1
    omega

theorem cutOffBack_take (limit : Nat) (bytes : List UInt8) (seen : Nat) :
    cutOffBack (bytes.take limit) seen = cutOffBack bytes seen ∨
      cutOffBack (bytes.take limit) seen = 0 := by
  induction bytes generalizing limit seen with
  | nil => simp
  | cons byte rest ih =>
    cases limit with
    | zero => exact .inr rfl
    | succ limit =>
      rw [List.take_succ_cons, cutOffBack, cutOffBack]
      split_ifs with continued
      · exact ih limit (seen + 1)
      · exact .inl rfl
      · exact .inl rfl

theorem cutOffBack_le (late : List UInt8) (c : Char) (before : List UInt8) (seen : Nat) :
    cutOffBack (late ++ ((String.utf8EncodeChar c).reverse ++ before)) seen ≤ seen + late.length := by
  induction late generalizing seen with
  | nil =>
    obtain ⟨lead, tail, shape, first, continued, width, -⟩ := encodeChar_shape c
    rw [List.nil_append, shape, List.reverse_cons, List.append_assoc,
      cutOffBack_append _ _ _ (by simpa using continued), List.singleton_append, cutOffBack,
      if_neg (by simp [first]), if_neg (by simp [width])]
    exact Nat.zero_le _
  | cons byte late ih =>
    rw [List.cons_append, cutOffBack, List.length_cons]
    have next := ih (seen + 1)
    split_ifs <;> omega

theorem completeLength_cut (front part missing : List UInt8) (c : Char)
    (split : String.utf8EncodeChar c = part ++ missing) (some : part ≠ []) (cut : missing ≠ []) :
    completeLength (front ++ part) = front.length := by
  obtain ⟨lead, tail, shape, first, continued, width, short⟩ := encodeChar_shape c
  obtain ⟨lead', part, rfl⟩ := List.exists_cons_of_ne_nil some
  rw [shape, List.cons_append, List.cons.injEq] at split
  obtain ⟨rfl, rfl⟩ := split
  have missed : 0 < missing.length := List.length_pos_of_ne_nil cut
  rw [List.length_append] at width short
  have behind : ∀ byte ∈ part.reverse, isContinuation byte = true := by
    intro byte member
    exact continued byte (List.mem_append_left _ (List.mem_reverse.mp member))
  -- At most three bytes are looked at, and the first byte of the character is among them.
  have looked : backwards (maxWidth - 1) (front ++ lead :: part) =
      part.reverse ++ lead :: front.reverse.take (2 - part.length) := by
    have room : maxWidth - 1 - part.reverse.length = 2 - part.length + 1 := by
      rw [List.length_reverse, maxWidth]
      omega
    rw [backwards_eq, List.reverse_append, List.reverse_cons, List.append_assoc, List.take_append,
      room, List.take_of_length_le (by rw [List.length_reverse, maxWidth]; omega),
      List.singleton_append, List.take_succ_cons]
  rw [completeLength, looked, cutOffBack_append _ _ _ behind, cutOffBack, if_neg (by simp [first]),
    if_pos (by simp; omega)]
  simp

theorem completeLength_le (bytes : List UInt8) : completeLength bytes ≤ bytes.length :=
  Nat.sub_le _ _

theorem le_completeLength (front back : List UInt8) (c : Char) :
    front.length + (String.utf8EncodeChar c).length ≤
      completeLength (front ++ String.utf8EncodeChar c ++ back) := by
  have whole := cutOffBack_le back.reverse c front.reverse 0
  rw [List.length_reverse, Nat.zero_add] at whole
  have reversed : (front ++ String.utf8EncodeChar c ++ back).reverse =
      back.reverse ++ ((String.utf8EncodeChar c).reverse ++ front.reverse) := by simp
  rw [completeLength, backwards_eq, reversed, List.length_append, List.length_append]
  rcases cutOffBack_take (maxWidth - 1)
    (back.reverse ++ ((String.utf8EncodeChar c).reverse ++ front.reverse)) 0 with same | none
  · omega
  · omega

theorem completeLength_splits (window after front back : List UInt8) (c : Char)
    (split : window ++ after = front ++ String.utf8EncodeChar c ++ back) :
    front.length + (String.utf8EncodeChar c).length ≤ completeLength window ∨
      completeLength window ≤ front.length ∧
        window.length < front.length + (String.utf8EncodeChar c).length := by
  have total := completeLength_le window
  have some : 0 < (String.utf8EncodeChar c).length :=
    List.length_pos_of_ne_nil String.utf8EncodeChar_ne_nil
  rcases List.append_eq_append_iff.mp split with ⟨rest, inside, -⟩ | ⟨rest, inside, -⟩
  · -- The window ends in front of the character, or within it.
    rcases List.append_eq_append_iff.mp inside.symm with ⟨gap, behind, -⟩ | ⟨part, shown, cut⟩
    · right
      rw [behind, List.length_append]
      omega
    · by_cases none : rest = []
      · left
        rw [none, List.append_nil] at cut
        have whole := le_completeLength front [] c
        rwa [List.append_nil, cut, ← shown, ← cut] at whole
      · right
        have missed : 0 < rest.length := List.length_pos_of_ne_nil none
        rw [shown, List.length_append] at total ⊢
        rw [cut, List.length_append]
        by_cases empty : part = []
        · rw [empty, List.append_nil, List.length_nil]
          exact ⟨completeLength_le front, by omega⟩
        · exact ⟨Nat.le_of_eq (completeLength_cut front part rest c cut empty none), by omega⟩
  · left
    rw [inside]
    exact le_completeLength front rest c

theorem completeLength_whole (text : List Char) :
    completeLength (encode text) = (encode text).length := by
  apply Nat.le_antisymm (completeLength_le _)
  rcases List.eq_nil_or_concat text with rfl | ⟨front, c, rfl⟩
  · exact Nat.zero_le _
  · have whole := le_completeLength (encode front) [] c
    simpa using whole

theorem le_completeLength_add (bytes : List UInt8) :
    bytes.length ≤ completeLength bytes + (maxWidth - 1) := by
  have bounded (late : List UInt8) (seen : Nat) : cutOffBack late seen ≤ seen + late.length := by
    induction late generalizing seen with
    | nil => exact Nat.zero_le _
    | cons byte late ih =>
      rw [cutOffBack, List.length_cons]
      have next := ih (seen + 1)
      split_ifs <;> omega
  have cut := bounded (backwards (maxWidth - 1) bytes) 0
  rw [backwards_eq, List.length_take] at cut
  rw [completeLength, backwards_eq]
  omega

theorem tailBack_take (chars limit : Nat) (bytes : List UInt8) :
    tailBack chars limit (bytes.take limit) = tailBack chars limit bytes := by
  induction bytes generalizing chars limit with
  | nil => simp
  | cons byte rest ih =>
    cases limit with
    | zero => cases chars <;> simp [tailBack]
    | succ limit =>
      cases chars with
      | zero => simp [tailBack]
      | succ chars => rw [List.take_succ_cons, tailBack, tailBack, ih]

theorem tailBack_le (chars limit : Nat) (bytes : List UInt8) :
    tailBack chars limit bytes ≤ limit := by
  induction bytes generalizing chars limit with
  | nil => cases chars <;> cases limit <;> simp [tailBack]
  | cons byte rest ih =>
    cases chars with
    | zero => simp [tailBack]
    | succ chars =>
      cases limit with
      | zero => simp [tailBack]
      | succ limit =>
        rw [tailBack]
        exact Nat.succ_le_succ (ih _ limit)

theorem tailBack_continued (late rest : List UInt8) (chars limit : Nat)
    (continued : ∀ byte ∈ late, isContinuation byte = true) :
    tailBack (chars + 1) (late.length + limit) (late ++ rest) =
      late.length + tailBack (chars + 1) limit rest := by
  induction late with
  | nil => simp
  | cons byte late ih =>
    rw [List.forall_mem_cons] at continued
    rw [List.length_cons, Nat.add_right_comm, List.cons_append, tailBack, if_pos continued.1,
      ih continued.2]
    omega

theorem tailBack_encodeChar (c : Char) (rest : List UInt8) (chars limit : Nat) :
    tailBack (chars + 1) ((String.utf8EncodeChar c).length + limit)
        ((String.utf8EncodeChar c).reverse ++ rest) =
      (String.utf8EncodeChar c).length + tailBack chars limit rest := by
  obtain ⟨lead, tail, shape, first, continued, -, -⟩ := encodeChar_shape c
  have taken := tailBack_continued tail.reverse (lead :: rest) chars (limit + 1)
    (by simpa using continued)
  rw [tailBack, if_neg (by simp [first]), List.length_reverse] at taken
  rw [shape, List.reverse_cons, List.append_assoc, List.singleton_append, List.length_cons,
    Nat.add_right_comm, Nat.add_assoc, taken]
  omega

theorem encodeChar_length_le (c : Char) : (String.utf8EncodeChar c).length ≤ maxWidth := by
  obtain ⟨lead, tail, shape, -, -, -, short⟩ := encodeChar_shape c
  rw [shape, List.length_cons, maxWidth]
  omega

theorem encodeChar_length_pos (c : Char) : 0 < (String.utf8EncodeChar c).length := by
  obtain ⟨lead, tail, shape, -⟩ := encodeChar_shape c
  rw [shape]
  exact Nat.succ_pos _

theorem encode_length_pos (text : List Char) (some : text ≠ []) : 0 < (encode text).length := by
  obtain ⟨c, rest, rfl⟩ := List.exists_cons_of_ne_nil some
  have width := encodeChar_length_pos c
  rw [encode_cons, List.length_append]
  omega

theorem encode_length_le (text : List Char) : (encode text).length ≤ text.length * maxWidth := by
  induction text with
  | nil => simp
  | cons c rest ih =>
    have width := encodeChar_length_le c
    rw [encode_cons, List.length_append, List.length_cons, Nat.add_mul]
    omega

theorem tailBack_encode (text : List Char) (rest : List UInt8) (chars limit : Nat) :
    tailBack (text.length + chars) ((encode text).length + limit) ((encode text).reverse ++ rest) =
      (encode text).length + tailBack chars limit rest := by
  induction text generalizing rest chars limit with
  | nil => simp
  | cons c text ih =>
    have taken := ih ((String.utf8EncodeChar c).reverse ++ rest) (chars + 1)
      ((String.utf8EncodeChar c).length + limit)
    rw [tailBack_encodeChar] at taken
    rw [encode_cons, List.reverse_append, List.append_assoc, List.length_cons, List.length_append,
      Nat.add_right_comm, Nat.add_comm (String.utf8EncodeChar c).length, Nat.add_assoc, Nat.add_assoc,
      taken]
    omega

theorem overlapStart_eq (bytes : List UInt8) (chars : Nat) :
    overlapStart bytes chars =
      bytes.length - tailBack chars (chars * maxWidth) bytes.reverse := by
  rw [overlapStart, overlapWithin, backwards_eq, tailBack_take]

theorem overlapStart_le (front : List UInt8) (text : List Char) (chars : Nat)
    (fits : text.length ≤ chars) :
    overlapStart (front ++ encode text) chars ≤ front.length := by
  have width := encode_length_le text
  obtain ⟨more, rfl⟩ := Nat.exists_eq_add_of_le fits
  -- The bytes of the text are within the budget, so counting them back does not use it up.
  obtain ⟨room, room_eq⟩ : ∃ room, (text.length + more) * maxWidth = (encode text).length + room :=
    ⟨_, (Nat.add_sub_cancel' (width.trans (Nat.mul_le_mul_right _ (Nat.le_add_right _ _)))).symm⟩
  rw [overlapStart_eq, List.reverse_append, room_eq, tailBack_encode, List.length_append]
  omega

theorem overlapStart_encode (text : List Char) (chars : Nat) :
    overlapStart (encode text) chars = (encode (text.take (text.length - chars))).length := by
  rcases Nat.le_total chars text.length with within | beyond
  · have width := encode_length_le (text.drop (text.length - chars))
    have count : (text.drop (text.length - chars)).length = chars := by
      rw [List.length_drop]
      omega
    have taken := tailBack_encode (text.drop (text.length - chars))
      (encode (text.take (text.length - chars))).reverse 0
      (chars * maxWidth - (encode (text.drop (text.length - chars))).length)
    rw [count] at width taken
    rw [Nat.add_sub_cancel' width, ← List.reverse_append, ← encode_append, List.take_append_drop,
      Nat.add_zero] at taken
    have lengths : (encode text).length = (encode (text.take (text.length - chars))).length +
        (encode (text.drop (text.length - chars))).length := by
      rw [← List.length_append, ← encode_append, List.take_append_drop]
    rw [overlapStart_eq, taken, tailBack]
    omega
  · have start := overlapStart_le [] text chars beyond
    rw [Nat.sub_eq_zero_of_le beyond, List.take_zero, encode_nil, List.length_nil]
    exact Nat.eq_zero_of_le_zero start

theorem le_overlapStart_add (bytes : List UInt8) (chars : Nat) :
    bytes.length ≤ overlapStart bytes chars + chars * maxWidth := by
  have bounded := tailBack_le chars (chars * maxWidth) bytes.reverse
  rw [overlapStart_eq]
  omega

theorem overlapStart_le_length (bytes : List UInt8) (chars : Nat) :
    overlapStart bytes chars ≤ bytes.length :=
  Nat.sub_le _ _

theorem splits_encode (bytes front back : List UInt8) (text : List Char) (place : Nat)
    (between : ∀ front c back, bytes = front ++ String.utf8EncodeChar c ++ back →
      front.length + (String.utf8EncodeChar c).length ≤ place ∨ place ≤ front.length)
    (stands : bytes = front ++ encode text ++ back) (begins : front.length ≤ place) :
    front.length + (encode text).length ≤ place ∨
      ∃ left right, text = left ++ right ∧ right ≠ [] ∧
        front.length + (encode left).length = place := by
  -- Character by character: the place is behind the first one, or it is where that one begins.
  induction text generalizing front with
  | nil => exact .inl begins
  | cons c rest ih =>
    rw [encode_cons, ← List.append_assoc] at stands
    rcases between front c (encode rest ++ back) (by rw [stands, List.append_assoc]) with ends | starts
    · rcases ih (front ++ String.utf8EncodeChar c) stands (by rwa [List.length_append]) with
        inside | ⟨left, right, rfl, some, exact⟩
      · left
        rw [List.length_append] at inside
        rw [encode_cons, List.length_append]
        omega
      · right
        refine ⟨c :: left, right, rfl, some, ?_⟩
        rw [List.length_append] at exact
        rw [encode_cons, List.length_append]
        omega
    · exact .inr ⟨[], c :: rest, rfl, by simp, by simp; omega⟩

theorem completeLength_encode (text : List Char) (window after : List UInt8)
    (split : window ++ after = encode text) :
    ∃ left right, text = left ++ right ∧ completeLength window = (encode left).length ∧
      window.take (completeLength window) = encode left := by
  have most := completeLength_le window
  have between : ∀ front c back, encode text = front ++ String.utf8EncodeChar c ++ back →
      front.length + (String.utf8EncodeChar c).length ≤ completeLength window ∨
        completeLength window ≤ front.length := by
    intro front c back found
    rcases completeLength_splits window after front back c (split.trans found) with ends | starts
    · exact .inl ends
    · exact .inr starts.1
  have prefixed : ∀ left right, text = left ++ right → (encode left).length = completeLength window →
      window.take (completeLength window) = encode left := by
    intro left right joined length
    have taken := congrArg (List.take (completeLength window)) split
    rw [List.take_append_of_le_length most, joined, encode_append, ← length, List.take_left] at taken
    rwa [length] at taken
  rcases splits_encode (encode text) [] [] text _ between (by simp) (Nat.zero_le _) with
    inside | ⟨left, right, joined, -, length⟩
  · have total := congrArg List.length split
    rw [List.length_append] at total
    rw [List.length_nil, Nat.zero_add] at inside
    have length : (encode text).length = completeLength window := by omega
    exact ⟨text, [], (List.append_nil text).symm, length.symm,
      prefixed text [] (List.append_nil text).symm length⟩
  · rw [List.length_nil, Nat.zero_add] at length
    exact ⟨left, right, joined, length.symm, prefixed left right joined length⟩

end FileSearch.Content

import FileSearch.Proofs.Text.Encoding
import FileSearch.Text.Utf8
import Mathlib.Data.List.Infix

set_option autoImplicit false

namespace FileSearch.Text

open Content

def Utf8State.flush (read : List Char) : Utf8State → List Char
  | .idle => read
  | .within .. => replacement :: read

def Utf8State.Proper : Utf8State → Prop
  | .idle => True
  | .within _ _ lo hi => 0x80 ≤ lo.toNat ∧ hi.toNat ≤ 0xbf

theorem decodeFrom_cons (byte : UInt8) (rest : List UInt8) (state : Utf8State) (read : List Char) :
    decodeFrom (byte :: rest) state read =
      decodeFrom rest (state.step byte read).1 (state.step byte read).2 := rfl

theorem mask_tail (byte : UInt8) : (byte &&& 0x3f).toNat = byte.toNat % 64 := by
  simp [UInt8.toNat_and, Nat.and_two_pow_sub_one_eq_mod _ 6]

theorem ofLead?_eq (byte : UInt8) : Utf8State.ofLead? byte =
    if byte.toNat < 0xc2 then none
    else if byte.toNat < 0xe0 then some (.within (byte.toNat % 32) 1 0x80 0xbf)
    else if byte.toNat < 0xf0 then
      some (.within (byte.toNat % 16) 2 (if byte.toNat = 0xe0 then 0xa0 else 0x80)
        (if byte.toNat = 0xed then 0x9f else 0xbf))
    else if byte.toNat < 0xf5 then
      some (.within (byte.toNat % 8) 3 (if byte.toNat = 0xf0 then 0x90 else 0x80)
        (if byte.toNat = 0xf4 then 0x8f else 0xbf))
    else none := by
  simp [Utf8State.ofLead?, UInt8.lt_iff_toNat_lt, ← UInt8.toNat_inj, UInt8.toNat_and,
    Nat.and_two_pow_sub_one_eq_mod _ 5, Nat.and_two_pow_sub_one_eq_mod _ 4,
    Nat.and_two_pow_sub_one_eq_mod _ 3]

theorem step_within (bits need : Nat) (lo hi byte : UInt8) (read : List Char)
    (least : lo.toNat ≤ byte.toNat) (most : byte.toNat ≤ hi.toNat) :
    Utf8State.step (.within bits need lo hi) byte read =
      if need ≤ 1 then (.idle, Char.ofNat (bits * 64 + byte.toNat % 64) :: read)
      else (.within (bits * 64 + byte.toNat % 64) (need - 1) 0x80 0xbf, read) := by
  have range : lo ≤ byte ∧ byte ≤ hi :=
    ⟨UInt8.le_iff_toNat_le.mpr least, UInt8.le_iff_toNat_le.mpr most⟩
  simp only [Utf8State.step, range, and_self, if_true, mask_tail]

theorem step_lead (state : Utf8State) (byte : UInt8) (read : List Char) (proper : state.Proper)
    (lead : isContinuation byte = false) :
    state.step byte read = Utf8State.enter byte (state.flush read) := by
  cases state with
  | idle => rfl
  | within bits need lo hi =>
    have outside : ¬ (lo ≤ byte ∧ byte ≤ hi) := by
      rw [Bool.eq_false_iff, ne_eq, isContinuation_iff] at lead
      have bounds : 0x80 ≤ lo.toNat ∧ hi.toNat ≤ 0xbf := proper
      simp only [UInt8.le_iff_toNat_le]
      omega
    simp only [Utf8State.step, outside, if_false, Utf8State.flush]

theorem decodeFrom_begin (byte : UInt8) (rest : List UInt8) (state begun : Utf8State)
    (read : List Char) (proper : state.Proper) (lead : isContinuation byte = false)
    (large : 0x80 ≤ byte.toNat) (begins : Utf8State.ofLead? byte = some begun) :
    decodeFrom (byte :: rest) state read = decodeFrom rest begun (state.flush read) := by
  have notSmall : ¬ byte < 0x80 := by
    rw [UInt8.lt_iff_toNat_lt]
    exact Nat.not_lt.mpr large
  simp only [decodeFrom_cons, step_lead _ _ _ proper lead, Utf8State.enter, notSmall, if_false,
    begins]

theorem decodeFrom_more (byte : UInt8) (rest : List UInt8) (bits need : Nat) (lo hi : UInt8)
    (read : List Char) (least : lo.toNat ≤ byte.toNat) (most : byte.toNat ≤ hi.toNat) :
    decodeFrom (byte :: rest) (.within bits (need + 2) lo hi) read =
      decodeFrom rest (.within (bits * 64 + byte.toNat % 64) (need + 1) 0x80 0xbf) read := by
  rw [decodeFrom_cons, step_within _ _ _ _ _ _ least most, if_neg (by omega)]
  rfl

theorem decodeFrom_last (byte : UInt8) (rest : List UInt8) (bits : Nat) (lo hi : UInt8)
    (read : List Char) (least : lo.toNat ≤ byte.toNat) (most : byte.toNat ≤ hi.toNat) :
    decodeFrom (byte :: rest) (.within bits 1 lo hi) read =
      decodeFrom rest .idle (Char.ofNat (bits * 64 + byte.toNat % 64) :: read) := by
  rw [decodeFrom_cons, step_within _ _ _ _ _ _ least most, if_pos (Nat.le_refl 1)]

theorem decodeFrom_encodeChar (c : Char) (rest : List UInt8) (state : Utf8State)
    (read : List Char) (proper : state.Proper) :
    decodeFrom (String.utf8EncodeChar c ++ rest) state read =
      decodeFrom rest .idle (c :: state.flush read) := by
  obtain ⟨lead, tail, shape, first, -, -, -⟩ := encodeChar_shape c
  have valid := toNat_valid c
  -- One case for each length: the first byte sets the state, and each of the others fits into it.
  rcases encodeChar_cases c with ⟨a, h, small, ha⟩ | ⟨a, b, h, _, _, ha, hb⟩ |
    ⟨a, b, d, h, _, _, ha, hb, hd⟩ | ⟨a, b, d, e, h, _, ha, hb, hd, he⟩ <;>
    obtain ⟨rfl, rfl⟩ : lead = a ∧ tail = _ := by rw [h] at shape; simpa [eq_comm] using shape
  · have below : lead < 0x80 := by rw [UInt8.lt_iff_toNat_lt]; exact ha ▸ small
    rw [h, List.cons_append, List.nil_append, decodeFrom_cons, step_lead _ _ _ proper first]
    simp only [Utf8State.enter, below, if_true, ha, Char.ofNat_toNat]
  · have begins : Utf8State.ofLead? lead = some (.within (c.toNat / 64) 1 0x80 0xbf) := by
      rw [ofLead?_eq, if_neg (by omega), if_pos (by omega)]
      congr 2; omega
    have whole : c.toNat / 64 * 64 + b.toNat % 64 = c.toNat := by omega
    rw [h]
    simp only [List.cons_append, List.nil_append]
    rw [decodeFrom_begin _ _ _ _ _ proper first (by omega) begins,
      decodeFrom_last _ _ _ _ _ _ (by simp; omega) (by simp; omega), whole, Char.ofNat_toNat]
  · have begins : Utf8State.ofLead? lead = some (.within (c.toNat / 4096) 2
        (if lead.toNat = 0xe0 then 0xa0 else 0x80) (if lead.toNat = 0xed then 0x9f else 0xbf)) := by
      rw [ofLead?_eq, if_neg (by omega), if_neg (by omega), if_pos (by omega)]
      congr 2; omega
    have whole : (c.toNat / 4096 * 64 + b.toNat % 64) * 64 + d.toNat % 64 = c.toNat := by omega
    rw [h]
    simp only [List.cons_append, List.nil_append]
    rw [decodeFrom_begin _ _ _ _ _ proper first (by omega) begins,
      decodeFrom_more _ _ _ 0 _ _ _ (by split_ifs <;> simp <;> omega)
        (by split_ifs <;> simp <;> omega),
      decodeFrom_last _ _ _ _ _ _ (by simp; omega) (by simp; omega), whole, Char.ofNat_toNat]
  · have begins : Utf8State.ofLead? lead = some (.within (c.toNat / 262144) 3
        (if lead.toNat = 0xf0 then 0x90 else 0x80) (if lead.toNat = 0xf4 then 0x8f else 0xbf)) := by
      rw [ofLead?_eq, if_neg (by omega), if_neg (by omega), if_neg (by omega), if_pos (by omega)]
      congr 2; omega
    have whole : ((c.toNat / 262144 * 64 + b.toNat % 64) * 64 + d.toNat % 64) * 64 + e.toNat % 64 =
        c.toNat := by omega
    rw [h]
    simp only [List.cons_append, List.nil_append]
    rw [decodeFrom_begin _ _ _ _ _ proper first (by omega) begins,
      decodeFrom_more _ _ _ 1 _ _ _ (by split_ifs <;> simp <;> omega)
        (by split_ifs <;> simp <;> omega),
      decodeFrom_more _ _ _ 0 _ _ _ (by simp; omega) (by simp; omega),
      decodeFrom_last _ _ _ _ _ _ (by simp; omega) (by simp; omega), whole, Char.ofNat_toNat]

theorem proper_step (state : Utf8State) (byte : UInt8) (read : List Char) (proper : state.Proper) :
    (state.step byte read).1.Proper := by
  have entered (read : List Char) : (Utf8State.enter byte read).1.Proper := by
    simp only [Utf8State.enter, ofLead?_eq]
    split_ifs <;> simp [Utf8State.Proper]
  cases state with
  | idle => exact entered read
  | within bits need lo hi =>
    simp only [Utf8State.step]
    split_ifs
    · trivial
    · simp [Utf8State.Proper]
    · exact entered _

theorem step_read (state : Utf8State) (byte : UInt8) (read : List Char) :
    state.step byte read = ((state.step byte []).1, (state.step byte []).2 ++ read) := by
  have entered (read earlier : List Char) : Utf8State.enter byte (read ++ earlier) =
      ((Utf8State.enter byte read).1, (Utf8State.enter byte read).2 ++ earlier) := by
    simp only [Utf8State.enter]
    split_ifs
    · rfl
    · cases Utf8State.ofLead? byte <;> rfl
  cases state with
  | idle => exact entered [] read
  | within bits need lo hi =>
    simp only [Utf8State.step]
    split_ifs
    · rfl
    · rfl
    · exact entered [replacement] read

theorem decodeFrom_read (bytes : List UInt8) (state : Utf8State) (read : List Char) :
    decodeFrom bytes state read = read.reverse ++ decodeFrom bytes state [] := by
  induction bytes generalizing state read with
  | nil => cases state <;> simp [decodeFrom]
  | cons byte rest ih =>
    rw [decodeFrom_cons, decodeFrom_cons, step_read state byte read, ih _ (_ ++ read),
      ih _ (state.step byte []).2]
    simp

theorem decodeFrom_idle (bytes : List UInt8) (read : List Char) :
    decodeFrom bytes .idle read = read.reverse ++ decodeLossy bytes :=
  decodeFrom_read bytes .idle read

theorem decodeFrom_encode (text : List Char) (bytes : List UInt8) (read : List Char) :
    decodeFrom (encode text ++ bytes) .idle read = decodeFrom bytes .idle (text.reverse ++ read) := by
  induction text generalizing read with
  | nil => rfl
  | cons c rest ih =>
    rw [encode_cons, List.append_assoc, decodeFrom_encodeChar c _ .idle read trivial, ih]
    simp [Utf8State.flush]

theorem decodeLossy_encode_append (text : List Char) (bytes : List UInt8) :
    decodeLossy (encode text ++ bytes) = text ++ decodeLossy bytes := by
  rw [decodeLossy, decodeFrom_encode, decodeFrom_idle]
  simp

@[simp] theorem decodeLossy_encode (text : List Char) : decodeLossy (encode text) = text := by
  simpa [decodeLossy, decodeFrom] using decodeLossy_encode_append text []

theorem decodeFrom_found (front : List UInt8) (c : Char) (text : List Char) (back : List UInt8)
    (state : Utf8State) (read : List Char) (proper : state.Proper) :
    ∃ before, decodeFrom (front ++ encode (c :: text) ++ back) state read =
      before ++ (c :: text) ++ decodeLossy back := by
  -- Whatever was read before, the reader is in a state from which a first byte begins a character.
  induction front generalizing state read with
  | nil =>
    refine ⟨(state.flush read).reverse, ?_⟩
    rw [List.nil_append, encode_cons, List.append_assoc, decodeFrom_encodeChar c _ state read proper,
      decodeFrom_encode, decodeFrom_idle]
    simp
  | cons byte rest ih =>
    exact ih _ _ (proper_step state byte read proper)

theorem decodeLossy_found (front : List UInt8) (text : List Char) (back : List UInt8) :
    text <:+: decodeLossy (front ++ encode text ++ back) := by
  cases text with
  | nil => exact List.nil_infix
  | cons c rest =>
    obtain ⟨before, found⟩ := decodeFrom_found front c rest back .idle [] trivial
    exact ⟨before, decodeLossy back, found.symm⟩

theorem decodeFrom_within_cases (bytes : List UInt8) (bits need : Nat) (lo hi : UInt8) :
    (∃ byte rest, bytes = byte :: rest ∧ lo.toNat ≤ byte.toNat ∧ byte.toNat ≤ hi.toNat) ∨
      decodeFrom bytes (.within bits need lo hi) [] = replacement :: decodeLossy bytes := by
  cases bytes with
  | nil => exact .inr rfl
  | cons byte rest =>
    by_cases range : lo ≤ byte ∧ byte ≤ hi
    · exact .inl ⟨byte, rest, rfl, UInt8.le_iff_toNat_le.mp range.1, UInt8.le_iff_toNat_le.mp range.2⟩
    · refine .inr ?_
      have broken : Utf8State.step (.within bits need lo hi) byte [] =
          Utf8State.step .idle byte [replacement] := by
        simp only [Utf8State.step, range, if_false]
      rw [decodeFrom_cons, broken, ← decodeFrom_cons, decodeFrom_idle]
      rfl

-- What the reader makes of the bytes up to the next character: a character, or a replacement.
def ReadsOne (bytes : List UInt8) : Prop :=
  (∃ c rest, bytes = String.utf8EncodeChar c ++ rest ∧ decodeLossy bytes = c :: decodeLossy rest) ∨
    ∃ junk rest, bytes = junk ++ rest ∧ decodeLossy bytes = replacement :: decodeLossy rest

-- A byte that does not fit in ends the run that is replaced, and is read again.
theorem readsOne_next (front bytes : List UInt8) (bits need : Nat) (lo hi : UInt8)
    (begun : ∀ rest, decodeLossy (front ++ rest) = decodeFrom rest (.within bits need lo hi) [])
    (goesOn : ∀ byte rest, lo.toNat ≤ byte.toNat → byte.toNat ≤ hi.toNat →
      ReadsOne (front ++ byte :: rest)) : ReadsOne (front ++ bytes) := by
  rcases decodeFrom_within_cases bytes bits need lo hi with ⟨byte, rest, rfl, least, most⟩ | broken
  · exact goesOn byte rest least most
  · refine .inr ⟨front, bytes, rfl, ?_⟩
    rw [begun, broken]

theorem decodeLossy_more (front : List UInt8) (byte : UInt8) (bits need : Nat) (lo hi : UInt8)
    (least : lo.toNat ≤ byte.toNat) (most : byte.toNat ≤ hi.toNat)
    (begun : ∀ rest, decodeLossy (front ++ rest) =
      decodeFrom rest (.within bits (need + 2) lo hi) []) (rest : List UInt8) :
    decodeLossy (front ++ [byte] ++ rest) =
      decodeFrom rest (.within (bits * 64 + byte.toNat % 64) (need + 1) 0x80 0xbf) [] := by
  rw [List.append_assoc, begun, List.singleton_append,
    decodeFrom_more byte rest bits need _ _ _ least most]

theorem readsOne_last (front rest : List UInt8) (byte : UInt8) (bits : Nat) (lo hi : UInt8)
    (least : lo.toNat ≤ byte.toNat) (most : byte.toNat ≤ hi.toNat)
    (begun : ∀ rest, decodeLossy (front ++ rest) = decodeFrom rest (.within bits 1 lo hi) [])
    (whole : String.utf8EncodeChar (Char.ofNat (bits * 64 + byte.toNat % 64)) = front ++ [byte]) :
    ReadsOne (front ++ byte :: rest) := by
  refine .inl ⟨Char.ofNat (bits * 64 + byte.toNat % 64), rest, ?_, ?_⟩
  · rw [whole, List.append_assoc, List.singleton_append]
  · rw [begun, decodeFrom_last byte rest bits _ _ _ least most, decodeFrom_idle]
    rfl

theorem readsOne_two (a : UInt8) (bytes : List UInt8) (least : 0xc2 ≤ a.toNat) (most : a.toNat < 0xe0)
    (begun : ∀ rest, decodeLossy (a :: rest) =
      decodeFrom rest (.within (a.toNat % 32) 1 0x80 0xbf) []) : ReadsOne (a :: bytes) := by
  apply readsOne_next [a] bytes _ _ _ _ begun
  intro b rest lb ub
  exact readsOne_last [a] rest b _ _ _ lb ub begun (encodeChar_two a b least most lb ub)

theorem readsOne_three (a lo hi : UInt8) (bytes : List UInt8) (least : 0xe0 ≤ a.toNat)
    (most : a.toNat < 0xf0) (low : lo = if a.toNat = 0xe0 then 0xa0 else 0x80)
    (high : hi = if a.toNat = 0xed then 0x9f else 0xbf)
    (begun : ∀ rest, decodeLossy (a :: rest) =
      decodeFrom rest (.within (a.toNat % 16) 2 lo hi) []) : ReadsOne (a :: bytes) := by
  have bounds : (0x80 ≤ lo.toNat ∧ hi.toNat ≤ 0xbf) ∧ (a.toNat = 0xe0 → lo.toNat = 0xa0) ∧
      (a.toNat = 0xed → hi.toNat = 0x9f) := by
    subst low high
    split_ifs <;> simp_all
  apply readsOne_next [a] bytes _ _ _ _ begun
  intro b tail lb ub
  have second := decodeLossy_more [a] b _ 0 lo hi lb ub begun
  apply readsOne_next [a, b] tail _ _ _ _ second
  intro d rest ld ud
  apply readsOne_last [a, b] rest d _ _ _ ld ud second
  exact encodeChar_three a b d least most (by omega) (by omega) (by omega) (by omega) ld ud

theorem readsOne_four (a lo hi : UInt8) (bytes : List UInt8) (least : 0xf0 ≤ a.toNat)
    (most : a.toNat < 0xf5) (low : lo = if a.toNat = 0xf0 then 0x90 else 0x80)
    (high : hi = if a.toNat = 0xf4 then 0x8f else 0xbf)
    (begun : ∀ rest, decodeLossy (a :: rest) =
      decodeFrom rest (.within (a.toNat % 8) 3 lo hi) []) : ReadsOne (a :: bytes) := by
  have bounds : (0x80 ≤ lo.toNat ∧ hi.toNat ≤ 0xbf) ∧ (a.toNat = 0xf0 → lo.toNat = 0x90) ∧
      (a.toNat = 0xf4 → hi.toNat = 0x8f) := by
    subst low high
    split_ifs <;> simp_all
  apply readsOne_next [a] bytes _ _ _ _ begun
  intro b tail lb ub
  have second := decodeLossy_more [a] b _ 1 lo hi lb ub begun
  apply readsOne_next [a, b] tail _ _ _ _ second
  intro d tail ld ud
  have third := decodeLossy_more [a, b] d _ 0 0x80 0xbf ld ud second
  apply readsOne_next [a, b, d] tail _ _ _ _ third
  intro e rest le ue
  apply readsOne_last [a, b, d] rest e _ _ _ le ue third
  exact encodeChar_four a b d e least most (by omega) (by omega) (by omega) (by omega) ld ud le ue

theorem readsOne_cons (byte : UInt8) (bytes : List UInt8) : ReadsOne (byte :: bytes) := by
  by_cases small : byte.toNat < 0x80
  · refine .inl ⟨_, bytes, by rw [encodeChar_one byte small]; rfl, ?_⟩
    have below : byte < 0x80 := UInt8.lt_iff_toNat_lt.mpr small
    rw [decodeLossy, decodeFrom_cons]
    simp only [Utf8State.step, Utf8State.enter, below, if_true, decodeFrom_idle]
    rfl
  have notBelow : ¬ byte < 0x80 := fun below => small (UInt8.lt_iff_toNat_lt.mp below)
  have entered (begun : Utf8State) (begins : Utf8State.ofLead? byte = some begun)
      (rest : List UInt8) : decodeLossy (byte :: rest) = decodeFrom rest begun [] := by
    rw [decodeLossy, decodeFrom_cons]
    simp only [Utf8State.step, Utf8State.enter, notBelow, if_false, begins]
  have lost (none : Utf8State.ofLead? byte = none) : ReadsOne (byte :: bytes) := by
    refine .inr ⟨[byte], bytes, rfl, ?_⟩
    rw [decodeLossy, decodeFrom_cons]
    simp only [Utf8State.step, Utf8State.enter, notBelow, if_false, none, decodeFrom_idle]
    rfl
  -- The range of the first byte says how many bytes are to follow, and which.
  have lead := ofLead?_eq byte
  by_cases c2 : byte.toNat < 0xc2
  · exact lost (by rw [lead, if_pos c2])
  rw [if_neg c2] at lead
  by_cases e0 : byte.toNat < 0xe0
  · rw [if_pos e0] at lead
    exact readsOne_two byte bytes (by omega) e0 (entered _ lead)
  rw [if_neg e0] at lead
  by_cases f0 : byte.toNat < 0xf0
  · rw [if_pos f0] at lead
    exact readsOne_three byte _ _ bytes (by omega) f0 rfl rfl (entered _ lead)
  rw [if_neg f0] at lead
  by_cases f5 : byte.toNat < 0xf5
  · rw [if_pos f5] at lead
    exact readsOne_four byte _ _ bytes (by omega) f5 rfl rfl (entered _ lead)
  · exact lost (by rw [lead, if_neg f5])

theorem decodeLossy_drop (bytes : List UInt8) (front back : List Char)
    (reads : decodeLossy bytes = front ++ back) :
    ∃ before rest, bytes = before ++ rest ∧ decodeLossy rest = back := by
  induction front generalizing bytes with
  | nil => exact ⟨[], bytes, rfl, reads⟩
  | cons c front ih =>
    cases bytes with
    | nil => simp [decodeLossy, decodeFrom] at reads
    | cons byte bytes =>
      rcases readsOne_cons byte bytes with ⟨d, rest, split, reads'⟩ | ⟨junk, rest, split, reads'⟩
      all_goals
        rw [reads', List.cons_append, List.cons.injEq] at reads
        obtain ⟨before, rest', rfl, back'⟩ := ih rest reads.2
      · exact ⟨String.utf8EncodeChar d ++ before, rest', by rw [split, List.append_assoc], back'⟩
      · exact ⟨junk ++ before, rest', by rw [split, List.append_assoc], back'⟩

theorem decodeLossy_take (bytes : List UInt8) (text back : List Char)
    (reads : decodeLossy bytes = text ++ back) (plain : replacement ∉ text) :
    ∃ rest, bytes = encode text ++ rest := by
  induction text generalizing bytes with
  | nil => exact ⟨bytes, rfl⟩
  | cons c text ih =>
    simp only [List.mem_cons, not_or] at plain
    cases bytes with
    | nil => simp [decodeLossy, decodeFrom] at reads
    | cons byte bytes =>
      rcases readsOne_cons byte bytes with ⟨d, rest, split, reads'⟩ | ⟨junk, rest, split, reads'⟩
      all_goals rw [reads', List.cons_append, List.cons.injEq] at reads
      · obtain ⟨rest', rfl⟩ := ih rest reads.2 plain.2
        exact ⟨rest', by rw [split, reads.1, encode_cons, List.append_assoc]⟩
      · exact absurd reads.1 plain.1

theorem infix_decodeLossy (bytes : List UInt8) (text : List Char) (plain : replacement ∉ text) :
    text <:+: decodeLossy bytes ↔ encode text <:+: bytes := by
  constructor
  · rintro ⟨front, back, reads⟩
    obtain ⟨before, rest, rfl, reads'⟩ := decodeLossy_drop bytes front (text ++ back)
      (by rw [← reads, List.append_assoc])
    obtain ⟨after, rfl⟩ := decodeLossy_take rest text back reads' plain
    exact ⟨before, after, by rw [List.append_assoc]⟩
  · rintro ⟨front, back, rfl⟩
    exact decodeLossy_found front text back

end FileSearch.Text

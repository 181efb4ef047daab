import FileSearch.Proofs.Content.Whole

set_option autoImplicit false

namespace FileSearch.Content

open Text

-- A window as characters of a text, and what stands around it.
structure Window.Within (window : Window) (text before chars after : List Char) : Prop where
  split : text = before ++ chars ++ after
  start : window.start = (encode before).length
  bytes : window.bytes = encode chars

theorem windowsFrom_text (needle : Needle) (file : ByteArray) (text : List Char)
    (stored : file.data.toList = encode text) (behind : List Char) (carried : List UInt8)
    (start : Nat) (state : Carries needle file (encode behind) carried start) (window : Window)
    (looked : window ∈ windowsFrom needle file carried start)
    (ahead : behind <+: text) :
    ∃ before chars after, window.Within text before chars after := by
  -- What is left behind stays a text, since windows and overlaps end between characters.
  fun_induction windowsFrom needle file carried start generalizing behind with
  | case1 => cases looked
  | case2 carried start count some read complete ih =>
    obtain ⟨rest, rfl⟩ := ahead
    have inside : start + count ≤ file.size := by
      have within := state.within
      omega
    have joined : file.data.toList.take (start + count) = encode behind ++ read := state.window count
    have split : read ++ file.data.toList.drop (start + count) = encode rest := by
      apply List.append_cancel_left
      rw [← List.append_assoc (encode behind), ← joined, List.take_append_drop, stored, encode_append]
    obtain ⟨left, right, rfl, -, whole⟩ := completeLength_encode rest read _ split
    have whole : complete = encode left := whole
    cases looked with
    | head =>
      refine ⟨behind, left, right, (List.append_assoc _ _ _).symm, ?_, whole⟩
      have length := state.length_eq
      change start - carried.length = _
      omega
    | tail _ later =>
      have keep := overlapStart_encode left needle.overlap
      rw [← whole] at keep
      have dropped : read.take (overlapStart complete needle.overlap) =
          encode (left.take (left.length - needle.overlap)) := by
        rw [keep, ← List.take_append_drop (completeLength read) read]
        change List.take _ (complete ++ _) = _
        rw [whole, ← encode_split left (left.length - needle.overlap), List.append_assoc,
          List.take_left]
      have next := state.next count inside read complete rfl rfl
      rw [dropped, ← encode_append] at next
      have shorter := (List.take_prefix (left.length - needle.overlap) left).trans
        (List.prefix_append left right)
      exact ih _ next later ((List.prefix_append_right_inj behind).mpr shorter)

theorem windowsFrom_first (needle : Needle) (file : ByteArray)
    (before carried text after : List Char)
    (stored : file.data.toList = encode (before ++ carried ++ text ++ after)) (some : text ≠ [])
    (filled : (encode text).length =
      min (needle.capacity - (encode carried).length)
        (file.size - (encode (before ++ carried)).length)) :
    windowsFrom needle file (encode carried) (encode (before ++ carried)).length =
      ⟨(encode before).length, encode (carried ++ text)⟩ ::
        windowsFrom needle file
          (encode ((carried ++ text).drop ((carried ++ text).length - needle.overlap)))
          (encode (before ++ carried ++ text)).length := by
  have more : (encode text).length ≠ 0 := Nat.ne_of_gt (encode_length_pos text some)
  have read : readOnto file (encode (before ++ carried)).length (encode text).length [] =
      encode text := by
    rw [readOnto_eq, stored, encode_append _ after, encode_append _ text, List.append_assoc,
      List.drop_left, List.take_left, List.append_nil]
  have complete : (encode (carried ++ text)).take (completeLength (encode (carried ++ text))) =
      encode (carried ++ text) := by
    rw [completeLength_whole, List.take_length]
  have kept := encode_drop (carried ++ text) ((carried ++ text).length - needle.overlap)
  have start : (encode (before ++ carried)).length - (encode carried).length =
      (encode before).length := by
    rw [encode_append, List.length_append, Nat.add_sub_cancel]
  have next : (encode (before ++ carried)).length + (encode text).length =
      (encode (before ++ carried ++ text)).length := by
    rw [encode_append _ text, List.length_append]
  rw [windowsFrom, ← filled, dif_neg more]
  simp only [read, ← encode_append carried text, complete, overlapStart_encode, kept, start, next]

theorem windowsFrom_end (needle : Needle) (file : ByteArray) (carried : List UInt8) :
    windowsFrom needle file carried file.size = [] := by
  rw [windowsFrom, dif_pos]
  omega

theorem windowsFrom_small (needle : Needle) (file : ByteArray) (text : List Char)
    (stored : file.data.toList = encode text) (small : file.size ≤ needle.capacity)
    (window : Window) (looked : window ∈ windowsFrom needle file [] 0) :
    window = ⟨0, encode text⟩ := by
  have size : (encode text).length = file.size := congrArg List.length stored.symm
  cases text with
  | nil =>
    have ends := windowsFrom_end needle file []
    rw [← size] at ends
    change windowsFrom needle file [] 0 = [] at ends
    rw [ends] at looked
    cases looked
  | cons c rest =>
    have first := windowsFrom_first needle file [] [] (c :: rest) [] (by simpa using stored)
      (List.cons_ne_nil c rest) (by rw [size, Nat.min_eq_right] <;> simp [small])
    simp only [List.nil_append, encode_nil, List.length_nil, size, windowsFrom_end] at first
    rw [first] at looked
    exact List.mem_singleton.mp looked

-- The lower case of a window in its place in a file.
def Window.inPlace (window : Window) (file : ByteArray) : List Char :=
  lowerBetween (decodeLossy (file.data.toList.take window.start)).reverse
    (decodeLossy (file.data.toList.drop (window.start + window.bytes.length)))
    (decodeLossy window.bytes)

-- The lower case of a window as if it were a text of its own.
def Window.alone (window : Window) : List Char :=
  lower (decodeLossy window.bytes)

theorem Window.Within.inPlace {window : Window} {text before chars after : List Char}
    (within : window.Within text before chars after) (file : ByteArray)
    (stored : file.data.toList = encode text) :
    window.inPlace file = lowerBetween before.reverse after chars := by
  have ends : window.start + window.bytes.length = (encode (before ++ chars)).length := by
    rw [within.start, within.bytes, encode_append, List.length_append]
  rw [Window.inPlace, ends, within.start, within.bytes, stored, within.split, encode_append _ after,
    List.drop_left, encode_append, List.append_assoc, List.take_left, decodeLossy_encode,
    decodeLossy_encode, decodeLossy_encode]

theorem Window.Within.alone {window : Window} {text before chars after : List Char}
    (within : window.Within text before chars after) : window.alone = lower chars := by
  rw [Window.alone, within.bytes, decodeLossy_encode]

theorem prefix_of_encode_le (left right text : List Char) (first : left <+: text)
    (second : right <+: text) (shorter : (encode left).length ≤ (encode right).length) :
    left <+: right := by
  rcases List.prefix_or_prefix_of_prefix first second with before | ⟨more, rfl⟩
  · exact before
  · have none : more = [] := by
      by_contra some
      have width := encode_length_pos more some
      rw [encode_append, List.length_append] at shorter
      omega
    rw [none, List.append_nil]

theorem infix_lower_iff (needle : Needle) (file : ByteArray) (text : List Char)
    (stored : file.data.toList = encode text) (some : needle.chars ≠ []) :
    needle.chars <:+: lower text ↔
      ∃ window ∈ windowsFrom needle file [] 0, needle.chars <:+: window.inPlace file := by
  have begun := carries_start needle file
  constructor
  · intro found
    rw [lower_eq] at found
    obtain ⟨front, block, back, split, inside, short, -⟩ := infix_lowerBetween [] [] text _ some found
    have full : block ≠ [] := by
      rintro rfl
      exact some (List.infix_nil.mp inside)
    have stands : file.data.toList = encode front ++ encode block ++ encode back := by
      rw [stored, split, encode_append, encode_append]
    obtain ⟨window, looked, early, late, bytes, starts⟩ :=
      windowsFrom_cover_whole needle file _ _ block full short stands
    obtain ⟨before, chars, after, within⟩ :=
      windowsFrom_text needle file text stored [] [] 0 begun window looked List.nil_prefix
    refine ⟨window, looked, ?_⟩
    rw [within.inPlace file stored]
    -- The window begins before the block and ends behind it, between characters of the text.
    have begins : before <+: front := by
      apply prefix_of_encode_le before front text
      · exact ⟨chars ++ after, by rw [within.split, List.append_assoc]⟩
      · exact ⟨block ++ back, by rw [split, List.append_assoc]⟩
      · have start := within.start
        omega
    have ends : front ++ block <+: before ++ chars := by
      apply prefix_of_encode_le _ _ text
      · exact ⟨back, split.symm⟩
      · exact ⟨after, within.split.symm⟩
      · have start := within.start
        have total := congrArg List.length bytes
        rw [within.bytes, List.length_append, List.length_append] at total
        rw [encode_append, encode_append, List.length_append, List.length_append]
        omega
    obtain ⟨left, rfl⟩ := begins
    obtain ⟨right, joined⟩ := ends
    have middle : left ++ block ++ right = chars := by
      apply List.append_cancel_left
      rw [← joined]
      simp only [List.append_assoc]
    have rest : back = right ++ after := by
      apply List.append_cancel_left
      rw [← List.append_assoc _ right, joined, ← within.split, split]
    rw [List.reverse_append, List.append_nil, List.append_nil, rest] at inside
    rw [← middle]
    exact inside.trans (lowerBetween_part before.reverse after left block right)
  · rintro ⟨window, looked, found⟩
    obtain ⟨before, chars, after, within⟩ :=
      windowsFrom_text needle file text stored [] [] 0 begun window looked List.nil_prefix
    rw [within.inPlace file stored] at found
    rw [lower_eq, within.split]
    have part := lowerBetween_part [] [] before chars after
    rw [List.append_nil, List.append_nil] at part
    exact found.trans part

theorem scanFrom_iff_alone (needle : Needle) (file : ByteArray) :
    scanFrom needle file [] 0 = true ↔
      ∃ window ∈ windowsFrom needle file [] 0, needle.chars <:+: window.alone := by
  rw [scanFrom_eq_any, List.any_eq_true]
  simp only [Needle.isIn, hasSlice_iff, Window.alone]

end FileSearch.Content

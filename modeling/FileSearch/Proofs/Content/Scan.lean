import FileSearch.Content.Scan
import FileSearch.Proofs.Content.Window

set_option autoImplicit false

namespace FileSearch.Content

open Text

theorem readOnto_eq (file : ByteArray) (start count : Nat) (behind : List UInt8) :
    readOnto file start count behind = (file.data.toList.drop start).take count ++ behind := by
  induction count generalizing behind with
  | zero => rfl
  | succ count ih =>
    rw [readOnto, ih]
    split_ifs with inside
    · have here : start + count < file.data.toList.length := inside
      rw [List.take_add_one, List.getElem?_drop, List.getElem?_eq_getElem here]
      simp
      rfl
    · have gone : file.data.toList.length ≤ start + count := Nat.not_lt.mp inside
      rw [List.take_add_one, List.getElem?_drop, List.getElem?_eq_none gone]
      simp

-- The complete characters that a scan looks at at once, and where they begin in the file.
structure Window where
  start : Nat
  bytes : List UInt8

-- What a scan looks at in turn until it finds something.
def windowsFrom (needle : Needle) (file : ByteArray) (carried : List UInt8) (start : Nat) :
    List Window :=
  let count := min (needle.capacity - carried.length) (file.size - start)
  if _ : count = 0 then []
  else
    let window := carried ++ readOnto file start count []
    let complete := window.take (completeLength window)
    ⟨start - carried.length, complete⟩ ::
      windowsFrom needle file (window.drop (overlapStart complete needle.overlap)) (start + count)
  termination_by file.size - start

theorem scanFrom_eq_any (needle : Needle) (file : ByteArray) (carried : List UInt8) (start : Nat) :
    scanFrom needle file carried start =
      (windowsFrom needle file carried start).any fun window => needle.isIn window.bytes := by
  fun_induction windowsFrom needle file carried start with
  | case1 carried start count none =>
    rw [scanFrom]
    simp [count, none]
  | case2 carried start count some window complete ih =>
    rw [scanFrom]
    simp only [List.any_cons, ← ih]
    rw [dif_neg some]
    split_ifs with found
    · rw [show needle.isIn complete = true from found]
      rfl
    · rw [show needle.isIn complete = false from Bool.eq_false_iff.mpr found]
      rfl

-- What a scan has left behind and what it carries on are all that it has read.
structure Carries (needle : Needle) (file : ByteArray) (behind carried : List UInt8) (start : Nat) :
    Prop where
  read : file.data.toList.take start = behind ++ carried
  few : carried.length ≤ needle.maxCarry
  within : start ≤ file.size

theorem carries_start (needle : Needle) (file : ByteArray) : Carries needle file [] [] 0 :=
  ⟨rfl, Nat.zero_le _, Nat.zero_le _⟩

namespace Carries

variable {needle : Needle} {file : ByteArray} {behind carried : List UInt8} {start : Nat}

theorem length_eq (state : Carries needle file behind carried start) :
    behind.length + carried.length = start := by
  have total := congrArg List.length state.read
  have size : file.data.toList.length = file.size := rfl
  have within := state.within
  rw [List.length_take, List.length_append] at total
  omega

theorem window (state : Carries needle file behind carried start) (count : Nat) :
    file.data.toList.take (start + count) = behind ++ (carried ++ readOnto file start count []) := by
  rw [readOnto_eq, List.append_nil, ← List.append_assoc, ← state.read, List.take_add]

theorem next (state : Carries needle file behind carried start) (count : Nat)
    (inside : start + count ≤ file.size) (window complete : List UInt8)
    (read : window = carried ++ readOnto file start count [])
    (cut : complete = window.take (completeLength window)) :
    Carries needle file (behind ++ window.take (overlapStart complete needle.overlap))
      (window.drop (overlapStart complete needle.overlap)) (start + count) := by
  refine ⟨?_, ?_, inside⟩
  · rw [state.window count, ← read, List.append_assoc, List.take_append_drop]
  · -- The overlap, and the bytes of a character that is cut off.
    have held := le_completeLength_add window
    have kept := le_overlapStart_add complete needle.overlap
    have most := completeLength_le window
    have length : complete.length = completeLength window := by
      rw [cut, List.length_take, Nat.min_eq_left most]
    rw [List.length_drop, Needle.maxCarry]
    omega

end Carries

theorem windowsFrom_part (needle : Needle) (file : ByteArray) (behind carried : List UInt8)
    (start : Nat) (state : Carries needle file behind carried start) (window : Window)
    (looked : window ∈ windowsFrom needle file carried start) :
    ∃ front back, file.data.toList = front ++ window.bytes ++ back ∧ front.length = window.start := by
  fun_induction windowsFrom needle file carried start generalizing behind with
  | case1 => cases looked
  | case2 carried start count some read complete ih =>
    have inside : start + count ≤ file.size := by
      have within := state.within
      omega
    have joined := state.window count
    cases looked with
    | head =>
      refine ⟨behind, read.drop (completeLength read) ++ file.data.toList.drop (start + count),
        ?_, ?_⟩
      · rw [List.append_assoc, ← List.append_assoc complete, List.take_append_drop,
          ← List.append_assoc, ← joined, List.take_append_drop]
      · have length := state.length_eq
        change behind.length = start - carried.length
        omega
    | tail _ later => exact ih _ (state.next count inside read complete rfl rfl) later

theorem complete_or_carried (needle : Needle) (read after front back : List UInt8)
    (text : List Char) (some : text ≠ []) (fits : text.length ≤ needle.overlap + 1)
    (stands : read ++ after = front ++ encode text ++ back) :
    front ++ encode text <+: read.take (completeLength read) ∨
      read.length < front.length + (encode text).length ∧
        overlapStart (read.take (completeLength read)) needle.overlap ≤ front.length := by
  have most := completeLength_le read
  have between := fun front back c => completeLength_splits read after front back c
  rcases Nat.lt_or_ge (completeLength read) front.length with outside | begins
  · -- Only the carried end of the window can hold the beginning of the text.
    right
    obtain ⟨c, rest, rfl⟩ := List.exists_cons_of_ne_nil some
    have first := between front (encode rest ++ back) c (by simpa using stands)
    have kept := overlapStart_le_length (read.take (completeLength read)) needle.overlap
    rw [List.length_take, Nat.min_eq_left most] at kept
    rw [encode_cons, List.length_append]
    omega
  · rcases splits_encode (read ++ after) front back text (completeLength read)
        (fun front c back found => (between front back c found).imp_right And.left) stands begins with
      inside | ⟨left, right, rfl, more, length⟩
    · left
      have first : front ++ encode text <+: read ++ after := ⟨back, stands.symm⟩
      apply List.prefix_of_prefix_length_le first
      · exact (List.take_prefix _ _).trans (List.prefix_append _ _)
      · rwa [List.length_append, List.length_take, Nat.min_eq_left most]
    · right
      obtain ⟨c, rest, rfl⟩ := List.exists_cons_of_ne_nil more
      have first := between (front ++ encode left) (encode rest ++ back) c (by simpa using stands)
      rw [List.length_append] at first
      have complete : read.take (completeLength read) = front ++ encode left := by
        have taken := congrArg (List.take (completeLength read)) stands
        rw [List.take_append_of_le_length most, encode_append, ← length, ← List.length_append,
          ← List.append_assoc front, List.append_assoc, List.take_left] at taken
        rwa [List.length_append, length] at taken
      have short : left.length ≤ needle.overlap := by
        rw [List.length_append, List.length_cons] at fits
        omega
      have kept := overlapStart_le front left needle.overlap short
      have width := encodeChar_length_pos c
      rw [complete, encode_append, encode_cons, List.length_append, List.length_append]
      omega

theorem windowsFrom_cover (needle : Needle) (file : ByteArray) (behind carried : List UInt8)
    (start : Nat) (state : Carries needle file behind carried start) (front back : List UInt8)
    (text : List Char) (some : text ≠ []) (fits : text.length ≤ needle.overlap + 1)
    (stands : file.data.toList = front ++ encode text ++ back)
    (ahead : behind.length ≤ front.length) (unread : start < front.length + (encode text).length) :
    ∃ window ∈ windowsFrom needle file carried start, ∃ before after,
      before ++ encode text ++ after = window.bytes ∧
        window.start + before.length = front.length := by
  -- The text stays ahead of what is left behind, and its end ahead of what was read.
  have size : file.data.toList.length = file.size := rfl
  have total := congrArg List.length stands
  rw [List.length_append, List.length_append] at total
  fun_induction windowsFrom needle file carried start generalizing behind with
  | case1 carried start count none =>
    have few := state.few
    have room : needle.capacity = readSize + needle.maxCarry := rfl
    have positive : 0 < readSize := by decide
    omega
  | case2 carried start count more read complete ih =>
    have inside : start + count ≤ file.size := by
      have within := state.within
      omega
    have joined : file.data.toList.take (start + count) = behind ++ read := state.window count
    have counted := congrArg List.length joined
    rw [List.length_take, List.length_append] at counted
    have begun : behind <+: front := by
      have left : behind <+: file.data.toList := by
        rw [← List.take_append_drop (start + count) file.data.toList, joined, List.append_assoc]
        exact List.prefix_append _ _
      have right : front <+: file.data.toList := by
        rw [stands, List.append_assoc]
        exact List.prefix_append _ _
      exact List.prefix_of_prefix_length_le left right ahead
    obtain ⟨skipped, rfl⟩ := begun
    have split : read ++ file.data.toList.drop (start + count) = skipped ++ encode text ++ back := by
      apply List.append_cancel_left
      rw [← List.append_assoc behind, ← joined, List.take_append_drop, stands]
      simp only [List.append_assoc]
    rcases complete_or_carried needle read _ skipped back text some fits split with
      ⟨rest, whole⟩ | ⟨beyond, kept⟩
    · refine ⟨_, List.mem_cons_self, skipped, rest, whole, ?_⟩
      have length := state.length_eq
      rw [List.length_append]
      change start - carried.length + skipped.length = _
      omega
    · have later : start + count < (behind ++ skipped).length + (encode text).length := by
        rw [List.length_append]
        omega
      have ahead : (behind ++ read.take (overlapStart complete needle.overlap)).length ≤
          (behind ++ skipped).length := by
        have kept : overlapStart complete needle.overlap ≤ skipped.length := kept
        rw [List.length_append, List.length_append, List.length_take]
        omega
      obtain ⟨window, looked, found⟩ :=
        ih _ (state.next count inside read complete rfl rfl) ahead later
      exact ⟨window, List.mem_cons_of_mem _ looked, found⟩

theorem windowsFrom_cover_whole (needle : Needle) (file : ByteArray) (front back : List UInt8)
    (text : List Char) (some : text ≠ []) (short : text.length ≤ needle.chars.length)
    (stands : file.data.toList = front ++ encode text ++ back) :
    ∃ window ∈ windowsFrom needle file [] 0, ∃ before after,
      before ++ encode text ++ after = window.bytes ∧
        window.start + before.length = front.length := by
  have fits : text.length ≤ needle.overlap + 1 := by
    rw [Needle.overlap]
    omega
  have ahead : 0 < front.length + (encode text).length := by
    have width := encode_length_pos text some
    omega
  exact windowsFrom_cover needle file [] [] 0 (carries_start needle file) front back text some fits
    stands (Nat.zero_le _) ahead

end FileSearch.Content

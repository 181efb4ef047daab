import FileSearch.Proofs.Content.Scan
import Mathlib.Data.Nat.Count

set_option autoImplicit false

namespace FileSearch.Content

section Ranges

-- The bytes between two places, unless those are out of bounds.
def range? (bytes : List UInt8) (first last : Nat) : Option (List UInt8) :=
  if first ≤ last ∧ last ≤ bytes.length then some ((bytes.take last).drop first) else none

def overwrite? (bytes : List UInt8) (place : Nat) (written : List UInt8) : Option (List UInt8) :=
  if place + written.length ≤ bytes.length then
    some (bytes.take place ++ written ++ bytes.drop (place + written.length))
  else none

variable {bytes : List UInt8} {first last : Nat}

theorem range?_eq (ordered : first ≤ last) (inside : last ≤ bytes.length) :
    range? bytes first last = some ((bytes.take last).drop first) :=
  if_pos ⟨ordered, inside⟩

theorem range?_append {front : List UInt8} (back : List UInt8) (ordered : first ≤ last)
    (inside : last ≤ front.length) :
    range? (front ++ back) first last = some ((front.take last).drop first) := by
  rw [range?_eq ordered (by simp; omega), List.take_append_of_le_length inside]

variable {written : List UInt8}

theorem overwrite?_eq {place : Nat} (fits : place + written.length ≤ bytes.length) :
    overwrite? bytes place written =
      some (bytes.take place ++ written ++ bytes.drop (place + written.length)) :=
  if_pos fits

theorem overwrite?_front (fits : written.length ≤ bytes.length) :
    overwrite? bytes 0 written = some (written ++ bytes.drop written.length) := by
  rw [overwrite?_eq (by omega), List.take_zero, List.nil_append, Nat.zero_add]

end Ranges

-- How a scan fares when it asks for bytes. Where there is room and the file goes on, it is handed
-- one byte at least, and so many more at most.
inductive Reply where
  | cancelled
  | failed
  | bytes (more : Nat)

-- A scan between two reads: the first bytes of its buffer were carried on.
structure Scanner where
  buffer : List UInt8
  carried : Nat
  position : Nat

inductive Stage where
  | reading (scanner : Scanner)
  | ended (found : Option Bool)

namespace Scanner

def fresh (needle : Needle) : Scanner :=
  ⟨List.replicate needle.capacity 0, 0, 0⟩

def room? (scanner : Scanner) : Option (List UInt8) :=
  range? scanner.buffer scanner.carried scanner.buffer.length

def read? (file : ByteArray) (more : Nat) (scanner : Scanner) : Option (List UInt8) :=
  scanner.room?.map fun room =>
    (file.data.toList.drop scanner.position).take (min (more + 1) room.length)

-- Looks at what was carried on and what was read, and keeps the end of it.
def look? (needle : Needle) (read : List UInt8) (scanner : Scanner) : Option Stage := do
  let length := scanner.carried + read.length
  let buffer ← overwrite? scanner.buffer scanner.carried read
  let window ← range? buffer 0 length
  let complete ← range? buffer 0 (completeLength window)
  if needle.isIn complete then some (.ended (some true))
  else
    let keep := overlapStart complete needle.overlap
    let kept ← range? buffer keep length
    let moved ← overwrite? buffer 0 kept
    some (.reading ⟨moved, length - keep, scanner.position + read.length⟩)

def turn? (needle : Needle) (file : ByteArray) (scanner : Scanner) : Reply → Option Stage
  | .cancelled => some (.ended none)
  | .failed => scanner.room?.map fun _ => .ended (some false)
  | .bytes more => (scanner.read? file more).bind fun read =>
      if read.isEmpty then some (.ended (some false)) else scanner.look? needle read

end Scanner

def Stage.next? (needle : Needle) (file : ByteArray) (reply : Reply) : Stage → Option Stage
  | .reading scanner => scanner.turn? needle file reply
  | .ended found => some (.ended found)

-- How far a scan is after some turns; none once it has left the bounds of its buffer.
def stageAfter (needle : Needle) (file : ByteArray) (replies : Nat → Reply) : Nat → Option Stage
  | 0 => some (.reading (.fresh needle))
  | turns + 1 =>
    (stageAfter needle file replies turns).bind (Stage.next? needle file (replies turns))

-- What a turn reads of the file.
def readIn (needle : Needle) (file : ByteArray) (replies : Nat → Reply) (turn : Nat) : List UInt8 :=
  match stageAfter needle file replies turn, replies turn with
  | some (.reading scanner), .bytes more => (scanner.read? file more).getD []
  | _, _ => []

-- There is room for a whole read, so that one which brings nothing is at the end of the file.
structure Scanner.IsFed (needle : Needle) (file : ByteArray) (scanner : Scanner) : Prop where
  few : scanner.carried ≤ needle.maxCarry
  room : ∃ room, scanner.room? = some room ∧ readSize ≤ room.length
  ends : ∀ more, scanner.read? file more = some [] ↔ scanner.position = file.size

def Stage.IsFed (needle : Needle) (file : ByteArray) : Stage → Prop
  | .reading scanner => scanner.IsFed needle file
  | .ended _ => True

namespace Scanner

-- What is so between two reads.
structure Fits (needle : Needle) (file : ByteArray) (scanner : Scanner) : Prop where
  size : scanner.buffer.length = needle.capacity
  few : scanner.carried ≤ needle.maxCarry
  carries : ∃ behind, Carries needle file behind (scanner.buffer.take scanner.carried)
    scanner.position

variable {needle : Needle} {file : ByteArray} {scanner : Scanner}

theorem fresh_fits (needle : Needle) (file : ByteArray) : (fresh needle).Fits needle file :=
  ⟨List.length_replicate, Nat.zero_le _, [], carries_start needle file⟩

namespace Fits

theorem free (fits : scanner.Fits needle file) :
    scanner.carried + readSize ≤ scanner.buffer.length := by
  have few := fits.few
  rw [fits.size, Needle.capacity]
  omega

theorem within (fits : scanner.Fits needle file) : scanner.position ≤ file.size := by
  obtain ⟨behind, carries⟩ := fits.carries
  exact carries.within

theorem room?_eq (fits : scanner.Fits needle file) :
    scanner.room? = some (scanner.buffer.drop scanner.carried) := by
  have free := fits.free
  rw [room?, range?_eq (by omega) (Nat.le_refl _), List.take_length]

theorem read?_eq (fits : scanner.Fits needle file) (more : Nat) :
    scanner.read? file more = some ((file.data.toList.drop scanner.position).take
      (min (more + 1) (scanner.buffer.length - scanner.carried))) := by
  rw [read?, fits.room?_eq, Option.map_some, List.length_drop]

theorem read?_eq_nil_iff (fits : scanner.Fits needle file) (more : Nat) :
    scanner.read? file more = some [] ↔ scanner.position = file.size := by
  have free := fits.free
  have within := fits.within
  have size : file.data.toList.length = file.size := rfl
  have positive : 0 < readSize := by decide
  rw [fits.read?_eq, Option.some.injEq, ← List.length_eq_zero_iff, List.length_take,
    List.length_drop]
  omega

theorem read?_fits (fits : scanner.Fits needle file) {more : Nat} {read : List UInt8}
    (reads : scanner.read? file more = some read) :
    read <+: file.data.toList.drop scanner.position ∧
      scanner.carried + read.length ≤ scanner.buffer.length := by
  have free := fits.free
  rw [fits.read?_eq, Option.some.injEq] at reads
  subst reads
  refine ⟨List.take_prefix _ _, ?_⟩
  rw [List.length_take]
  omega

theorem read?_readOnto (fits : scanner.Fits needle file) {more : Nat} {read : List UInt8}
    (reads : scanner.read? file more = some read) :
    readOnto file scanner.position read.length [] = read := by
  rw [readOnto_eq, List.append_nil, ← List.prefix_iff_eq_take.mp (fits.read?_fits reads).1]

end Fits

variable (scanner : Scanner) (needle : Needle) (read : List UInt8)

def window : List UInt8 :=
  scanner.buffer.take scanner.carried ++ read

def complete : List UInt8 :=
  (scanner.window read).take (completeLength (scanner.window read))

def kept : List UInt8 :=
  (scanner.window read).drop (overlapStart (scanner.complete read) needle.overlap)

theorem overlapStart_complete_le :
    overlapStart (scanner.complete read) needle.overlap ≤ (scanner.window read).length :=
  (overlapStart_le_length _ _).trans ((List.length_take_le _ _).trans (completeLength_le _))

variable {scanner read}

theorem length_window (inside : scanner.carried + read.length ≤ scanner.buffer.length) :
    (scanner.window read).length = scanner.carried + read.length := by
  rw [window, List.length_append, List.length_take]
  omega

theorem look?_eq (inside : scanner.carried + read.length ≤ scanner.buffer.length) :
    ∃ rest, (scanner.kept needle read ++ rest).length = scanner.buffer.length ∧
      scanner.look? needle read =
        some (if needle.isIn (scanner.complete read) then .ended (some true)
          else .reading ⟨scanner.kept needle read ++ rest, (scanner.kept needle read).length,
            scanner.position + read.length⟩) := by
  have length := length_window inside
  have keep := overlapStart_complete_le scanner needle read
  have most := completeLength_le (scanner.window read)
  have short : (scanner.kept needle read).length ≤ (scanner.window read).length := by
    rw [kept, List.length_drop]
    omega
  let behind := scanner.buffer.drop (scanner.carried + read.length)
  have total : (scanner.window read ++ behind).length = scanner.buffer.length := by
    rw [List.length_append, List.length_drop]
    omega
  have filled : overwrite? scanner.buffer scanner.carried read =
      some (scanner.window read ++ behind) := overwrite?_eq inside
  have whole : range? (scanner.window read ++ behind) 0 (scanner.carried + read.length) =
      some (scanner.window read) := by
    rw [range?_append _ (Nat.zero_le _) (by omega), ← length, List.take_length, List.drop_zero]
  have complete : range? (scanner.window read ++ behind) 0 (completeLength (scanner.window read)) =
      some (scanner.complete read) := range?_append _ (Nat.zero_le _) most
  have kept : range? (scanner.window read ++ behind)
      (overlapStart (scanner.complete read) needle.overlap) (scanner.carried + read.length) =
      some (scanner.kept needle read) := by
    rw [range?_append _ (by omega) (by omega), ← length, List.take_length]
    rfl
  have moved : overwrite? (scanner.window read ++ behind) 0 (scanner.kept needle read) = _ :=
    overwrite?_front (by rw [total]; omega)
  have carried : scanner.carried + read.length -
      overlapStart (scanner.complete read) needle.overlap = (scanner.kept needle read).length := by
    rw [Scanner.kept, List.length_drop, length]
  refine ⟨(scanner.window read ++ behind).drop (scanner.kept needle read).length, ?_, ?_⟩
  · rw [List.length_append, List.length_drop]
    omega
  · simp only [look?, filled, whole, complete, kept, moved, carried, Option.bind_eq_bind,
      Option.bind_some]
    split_ifs <;> rfl

variable {needle} {file : ByteArray}

namespace Fits

theorem next (fits : scanner.Fits needle file) {more : Nat}
    (reads : scanner.read? file more = some read) {rest : List UInt8}
    (total : (scanner.kept needle read ++ rest).length = scanner.buffer.length) :
    Fits needle file ⟨scanner.kept needle read ++ rest, (scanner.kept needle read).length,
      scanner.position + read.length⟩ := by
  obtain ⟨ahead, -⟩ := fits.read?_fits reads
  obtain ⟨behind, carries⟩ := fits.carries
  have window : scanner.window read = scanner.buffer.take scanner.carried ++
      readOnto file scanner.position read.length [] := by
    rw [fits.read?_readOnto reads, Scanner.window]
  have within : scanner.position + read.length ≤ file.size := by
    have short := ahead.length_le
    have size : file.data.toList.length = file.size := rfl
    have within := fits.within
    rw [List.length_drop] at short
    omega
  have next := carries.next read.length within (scanner.window read) (scanner.complete read)
    window rfl
  have carried : ∃ behind, Carries needle file behind (scanner.kept needle read)
      (scanner.position + read.length) := ⟨_, next⟩
  refine ⟨total.trans fits.size, next.few, ?_⟩
  rwa [List.take_left]

theorem turn_bytes (fits : scanner.Fits needle file) {more : Nat}
    (reads : scanner.read? file more = some read) (full : read ≠ []) :
    ∃ next : Scanner, next.Fits needle file ∧
      next.buffer.take next.carried = scanner.kept needle read ∧
      next.position = scanner.position + read.length ∧
      scanner.turn? needle file (.bytes more) =
        some (if needle.isIn (scanner.complete read) then .ended (some true)
          else .reading next) := by
  obtain ⟨rest, total, looked⟩ := look?_eq needle (fits.read?_fits reads).2
  refine ⟨_, fits.next reads total, List.take_left, rfl, ?_⟩
  rw [turn?, reads, Option.bind_some, if_neg (by simpa using full), looked]

theorem turn_at_end (fits : scanner.Fits needle file) (more : Nat)
    (ends : scanner.position = file.size) :
    scanner.turn? needle file (.bytes more) = some (.ended (some false)) := by
  rw [turn?, (fits.read?_eq_nil_iff more).mpr ends]
  rfl

theorem turn_cases (fits : scanner.Fits needle file) (reply : Reply) :
    (∃ found, scanner.turn? needle file reply = some (.ended found)) ∨
      ∃ more read next, reply = .bytes more ∧ scanner.read? file more = some read ∧ read ≠ [] ∧
        scanner.turn? needle file reply = some (.reading next) ∧ next.Fits needle file ∧
        next.position = scanner.position + read.length := by
  cases reply with
  | cancelled => exact .inl ⟨none, rfl⟩
  | failed =>
    left
    exact ⟨some false, by rw [turn?, fits.room?_eq, Option.map_some]⟩
  | bytes more =>
    have reads := fits.read?_eq more
    generalize (file.data.toList.drop scanner.position).take _ = read at reads
    by_cases none : read = []
    · rw [none, fits.read?_eq_nil_iff] at reads
      exact .inl ⟨_, fits.turn_at_end more reads⟩
    · obtain ⟨next, fits', -, position, turned⟩ := fits.turn_bytes reads none
      by_cases found : needle.isIn (scanner.complete read) = true
      · rw [if_pos found] at turned
        exact .inl ⟨_, turned⟩
      · rw [if_neg found] at turned
        exact .inr ⟨more, read, next, rfl, reads, none, turned, fits', position⟩

theorem isFed (fits : scanner.Fits needle file) : scanner.IsFed needle file := by
  refine ⟨fits.few, ⟨_, fits.room?_eq, ?_⟩, fits.read?_eq_nil_iff⟩
  have free := fits.free
  rw [List.length_drop]
  omega

end Fits

end Scanner

section Runs

variable {needle : Needle} {file : ByteArray} {replies : Nat → Reply}

theorem stageAfter_succ {turns : Nat} {scanner : Scanner}
    (reading : stageAfter needle file replies turns = some (.reading scanner)) :
    stageAfter needle file replies (turns + 1) = scanner.turn? needle file (replies turns) := by
  rw [stageAfter, reading]
  rfl

variable (needle file replies)

theorem stageAfter_cases (turns : Nat) :
    (∃ found, stageAfter needle file replies turns = some (.ended found)) ∨
      ∃ scanner, stageAfter needle file replies turns = some (.reading scanner) ∧
        scanner.Fits needle file ∧ turns ≤ scanner.position ∧
        Nat.count (fun turn => readIn needle file replies turn ≠ []) turns = turns := by
  induction turns with
  | zero =>
    exact .inr ⟨_, rfl, Scanner.fresh_fits needle file, Nat.zero_le _, Nat.count_zero _⟩
  | succ turns ih =>
    rcases ih with ⟨found, ended⟩ | ⟨scanner, reading, fits, early, each⟩
    · exact .inl ⟨found, by rw [stageAfter, ended]; rfl⟩
    · rw [stageAfter_succ reading]
      rcases fits.turn_cases (replies turns) with ended | ⟨more, read, next, reply, reads, some, goes,
        fits', position⟩
      · exact .inl ended
      · have brought : readIn needle file replies turns = read := by
          rw [readIn, reading, reply]
          simp only [reads, Option.getD_some]
        have length := List.length_pos_of_ne_nil some
        refine .inr ⟨next, goes, fits', by omega, ?_⟩
        rw [Nat.count_succ, each, brought, if_pos some]

theorem stageAfter_ends :
    ∃ turns found, stageAfter needle file replies turns = some (.ended found) ∧
      turns ≤ Nat.count (fun turn => readIn needle file replies turn ≠ []) turns + 1 := by
  classical
  have ends : ∃ turns found, stageAfter needle file replies turns = some (.ended found) := by
    refine ⟨file.size + 1, ?_⟩
    rcases stageAfter_cases needle file replies (file.size + 1) with ended | ⟨scanner, -, fits, early, -⟩
    · exact ended
    · have within := fits.within
      omega
  obtain ⟨found, ended⟩ := Nat.find_spec ends
  refine ⟨Nat.find ends, found, ended, ?_⟩
  cases first : Nat.find ends with
  | zero => exact Nat.zero_le _
  | succ turns =>
    -- In all turns but the last one the scan went on, so that each of them has read something.
    have going : ¬ ∃ found, stageAfter needle file replies turns = some (.ended found) :=
      Nat.find_min ends (by omega)
    obtain ⟨scanner, -, -, -, each⟩ :=
      (stageAfter_cases needle file replies turns).resolve_left going
    have more := Nat.count_monotone (fun turn => readIn needle file replies turn ≠ [])
      (Nat.le_add_right turns 1)
    omega

end Runs

theorem scanFrom_turn {needle : Needle} {file : ByteArray} {scanner : Scanner}
    (fits : scanner.Fits needle file) {read : List UInt8}
    (reads : scanner.read? file file.size = some read) :
    scanFrom needle file (scanner.buffer.take scanner.carried) scanner.position =
      if read = [] then false
      else if needle.isIn (scanner.complete read) then true
      else scanFrom needle file (scanner.kept needle read) (scanner.position + read.length) := by
  have free := fits.free
  have carried : (scanner.buffer.take scanner.carried).length = scanner.carried := by
    rw [List.length_take]
    omega
  have size : file.data.toList.length = file.size := rfl
  have count : min (needle.capacity - (scanner.buffer.take scanner.carried).length)
      (file.size - scanner.position) = read.length := by
    rw [fits.read?_eq, Option.some.injEq] at reads
    rw [← reads, carried, ← fits.size, List.length_take, List.length_drop]
    omega
  rw [scanFrom]
  simp only [count, fits.read?_readOnto reads, List.length_eq_zero_iff]
  rfl

theorem stageAfter_filled (needle : Needle) (file : ByteArray) {turns : Nat} {scanner : Scanner}
    (reading : stageAfter needle file (fun _ => .bytes file.size) turns = some (.reading scanner))
    (fits : scanner.Fits needle file) :
    ∃ turns, stageAfter needle file (fun _ => .bytes file.size) turns = some (.ended
      (some (scanFrom needle file (scanner.buffer.take scanner.carried) scanner.position))) := by
  induction left : file.size - scanner.position using Nat.strongRecOn generalizing turns scanner with
  | ind left' ih =>
    have turned := stageAfter_succ reading
    have reads := fits.read?_eq file.size
    generalize (file.data.toList.drop scanner.position).take _ = read at reads
    rw [scanFrom_turn fits reads]
    by_cases none : read = []
    · have ends := (fits.read?_eq_nil_iff file.size).mp (none ▸ reads)
      exact ⟨turns + 1, by rw [turned, fits.turn_at_end file.size ends, if_pos none]⟩
    · obtain ⟨next, fits', front, position, went⟩ := fits.turn_bytes reads none
      rw [if_neg none]
      split_ifs with found
      · exact ⟨turns + 1, by rw [turned, went, if_pos found]⟩
      · rw [went, if_neg found] at turned
        have within := fits'.within
        have length := List.length_pos_of_ne_nil none
        have rest := ih _ (by omega) turned fits' rfl
        rwa [front, position] at rest

/-- Whatever a scan is handed, it never leaves its buffer, and it has room for a whole read each
time, so that a read which brings nothing is at the end of the file. It ends with the first of
those at the latest. Handed all that it has room for, it finds what the search does. -/
theorem reads_never_starve (needle : Needle) (file : ByteArray) (replies : Nat → Reply) :
    (∀ turns, ∃ stage, stageAfter needle file replies turns = some stage ∧
        stage.IsFed needle file) ∧
      (∃ turns found, stageAfter needle file replies turns = some (.ended found) ∧
        turns ≤ Nat.count (fun turn => readIn needle file replies turn ≠ []) turns + 1) ∧
      ∃ turns, stageAfter needle file (fun _ => .bytes file.size) turns =
        some (.ended (some (scanFrom needle file [] 0))) := by
  refine ⟨fun turns => ?_, stageAfter_ends needle file replies, ?_⟩
  · rcases stageAfter_cases needle file replies turns with ⟨found, ended⟩ |
      ⟨scanner, reading, fits, -, -⟩
    · exact ⟨_, ended, trivial⟩
    · exact ⟨_, reading, fits.isFed⟩
  · have begun : stageAfter needle file (fun _ => .bytes file.size) 0 =
        some (.reading (.fresh needle)) := rfl
    exact stageAfter_filled needle file begun (Scanner.fresh_fits needle file)

end FileSearch.Content

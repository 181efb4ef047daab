set_option autoImplicit false

namespace FileSearch.Text

def replacement : Char := '\ufffd'

-- What the reader waits for: a new character, or `need` more bytes of one whose bits so far are
-- `bits`, the next of them from `lo` to `hi`.
inductive Utf8State where
  | idle
  | within (bits need : Nat) (lo hi : UInt8)
  deriving Repr, DecidableEq

def Utf8State.ofLead? (byte : UInt8) : Option Utf8State :=
  if byte < 0xc2 then none
  else if byte < 0xe0 then some (.within (byte &&& 0x1f).toNat 1 0x80 0xbf)
  else if byte < 0xf0 then
    let lo : UInt8 := if byte = 0xe0 then 0xa0 else 0x80
    let hi : UInt8 := if byte = 0xed then 0x9f else 0xbf
    some (.within (byte &&& 0x0f).toNat 2 lo hi)
  else if byte < 0xf5 then
    let lo : UInt8 := if byte = 0xf0 then 0x90 else 0x80
    let hi : UInt8 := if byte = 0xf4 then 0x8f else 0xbf
    some (.within (byte &&& 0x07).toNat 3 lo hi)
  else none

@[inline] def Utf8State.enter (byte : UInt8) (read : List Char) : Utf8State × List Char :=
  if byte < 0x80 then (.idle, Char.ofNat byte.toNat :: read)
  else match Utf8State.ofLead? byte with
    | some state => (state, read)
    | none => (.idle, replacement :: read)

-- Reads one byte. A byte that does not continue the character begun is the first of another.
@[inline] def Utf8State.step (state : Utf8State) (byte : UInt8) (read : List Char) :
    Utf8State × List Char :=
  match state with
  | .idle => enter byte read
  | .within bits need lo hi =>
    if lo ≤ byte ∧ byte ≤ hi then
      let bits := bits * 64 + (byte &&& 0x3f).toNat
      if need ≤ 1 then (.idle, Char.ofNat bits :: read)
      else (.within bits (need - 1) 0x80 0xbf, read)
    else enter byte (replacement :: read)

-- Reads bytes from a state on; a character that is cut off at the end is replaced.
def decodeFrom : List UInt8 → Utf8State → List Char → List Char
  | [], .idle, read => read.reverse
  | [], .within .., read => (replacement :: read).reverse
  | byte :: rest, state, read =>
    let (state, read) := state.step byte read
    decodeFrom rest state read

def decodeLossy (bytes : List UInt8) : List Char :=
  decodeFrom bytes .idle []

end FileSearch.Text

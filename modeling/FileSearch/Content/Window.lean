set_option autoImplicit false

namespace FileSearch.Content

def maxWidth : Nat := 4

def isContinuation (byte : UInt8) : Bool :=
  byte &&& 0xc0 = 0x80

def widthOf (lead : UInt8) : Nat :=
  if lead < 0xc0 then 1
  else if lead < 0xe0 then 2
  else if lead < 0xf0 then 3
  else if lead < 0xf8 then 4
  else 1

-- How many of the bytes, which are given from the last one backwards, belong to a character that is
-- cut off; `seen` continuation bytes stand behind them.
def cutOffBack : List UInt8 → Nat → Nat
  | [], _ => 0
  | byte :: rest, seen =>
    if isContinuation byte then cutOffBack rest (seen + 1)
    else if seen + 1 < widthOf byte then seen + 1
    else 0

-- How many bytes the last `chars` characters have, given the bytes from the last one backwards; at
-- most `budget`.
def tailBack : (chars budget : Nat) → List UInt8 → Nat
  | 0, _, _ => 0
  | _, 0, _ => 0
  | _, _, [] => 0
  | chars + 1, budget + 1, byte :: rest =>
    tailBack (if isContinuation byte then chars + 1 else chars) budget rest + 1

def backwards (count : Nat) (bytes : List UInt8) : List UInt8 :=
  (bytes.drop (bytes.length - count)).reverse

def completeLength (bytes : List UInt8) : Nat :=
  bytes.length - cutOffBack (backwards (maxWidth - 1) bytes) 0

def overlapWithin (bytes : List UInt8) (chars budget : Nat) : Nat :=
  bytes.length - tailBack chars budget (backwards budget bytes)

def overlapStart (bytes : List UInt8) (chars : Nat) : Nat :=
  overlapWithin bytes chars (chars * maxWidth)

-- The start of the overlap with a budget that is counted in a machine word.
def overlapStartWord (bytes : List UInt8) (chars : UInt64) : Nat :=
  overlapWithin bytes chars.toNat (chars * UInt64.ofNat maxWidth).toNat

end FileSearch.Content

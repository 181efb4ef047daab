import FileSearch.Content.Window
import FileSearch.Text.Lowercase
import FileSearch.Text.Substring
import FileSearch.Text.Utf8

set_option autoImplicit false

namespace FileSearch.Content

def readSize : Nat := 64 * 1024

def maxFileSize : Nat := 32 * 1024 * 1024

inductive Source where
  | unreadable
  | file (bytes : ByteArray)

structure Needle where
  chars : List Char

namespace Needle

def ofText (text : String) : Needle := ⟨Text.lower text.toList⟩

def overlap (needle : Needle) : Nat :=
  needle.chars.length - 1

def maxCarry (needle : Needle) : Nat :=
  needle.overlap * maxWidth + (maxWidth - 1)

def capacity (needle : Needle) : Nat :=
  readSize + needle.maxCarry

def isIn (needle : Needle) (bytes : List UInt8) : Bool :=
  Text.hasSlice needle.chars (Text.lower (Text.decodeLossy bytes))

end Needle

-- The `count` bytes of a file from `start` on, in front of `behind`.
def readOnto (file : ByteArray) (start : Nat) : Nat → List UInt8 → List UInt8
  | 0, behind => behind
  | count + 1, behind =>
    readOnto file start count <|
      if h : start + count < file.size then file[start + count] :: behind else behind

def scanFrom (needle : Needle) (file : ByteArray) (carried : List UInt8) (start : Nat) : Bool :=
  let count := min (needle.capacity - carried.length) (file.size - start)
  if _ : count = 0 then false
  else
    let window := carried ++ readOnto file start count []
    -- A character that is cut off is left to the next window, which starts with it.
    let complete := window.take (completeLength window)
    if needle.isIn complete then true
    else
      scanFrom needle file (window.drop (overlapStart complete needle.overlap)) (start + count)
  termination_by file.size - start

/-- Whether a file contains a text, in any case. No answer is given once the search is cancelled; an
empty text, a file that is too large and one that cannot be read count as a miss. -/
def contains? (source : Source) (needle : String) (cancelled : Bool) : Option Bool :=
  if cancelled then none
  else if needle.isEmpty then some false
  else match source with
    | .unreadable => some false
    | .file bytes =>
      if maxFileSize < bytes.size then some false
      else some (scanFrom (.ofText needle) bytes [] 0)

end FileSearch.Content

import FileSearch.Path.Scope
import FileSearch.Text.Utf8

set_option autoImplicit false

namespace FileSearch

-- A path as the system has it: any bytes.
structure RawPath where
  bytes : List UInt8
  deriving DecidableEq, Repr

inductive RawComponent where
  | root
  | current
  | parent
  | named (name : List UInt8)
  deriving DecidableEq, Repr

namespace RawComponent

def rank : RawComponent → Nat
  | .root => 0
  | .current => 1
  | .parent => 2
  | .named _ => 3

def compare : RawComponent → RawComponent → Ordering
  | .named left, .named right => Ord.compare left right
  | left, right => Ord.compare left.rank right.rank

def ofPart? (part : List UInt8) : Option RawComponent :=
  if part = [] ∨ part = [0x2e] then none
  else if part = [0x2e, 0x2e] then some .parent
  else some (.named part)

end RawComponent

namespace RawPath

def ofPath (path : Path) : RawPath :=
  ⟨path.text.toUTF8.data.toList⟩

def lossy (path : RawPath) : Path :=
  ⟨String.ofList (Text.decodeLossy path.bytes)⟩

def isAbsolute (path : RawPath) : Bool :=
  path.bytes.head? = some 0x2f

def components (path : RawPath) : List RawComponent :=
  let parts := path.bytes.splitOn 0x2f
  let named := parts.filterMap RawComponent.ofPart?
  if path.isAbsolute then .root :: named
  else if parts.head? = some [0x2e] then .current :: named
  else named

def sameAs (left right : RawPath) : Bool :=
  left.components = right.components

def compareComponents : List RawComponent → List RawComponent → Ordering
  | [], [] => .eq
  | [], _ :: _ => .lt
  | _ :: _, [] => .gt
  | a :: left, b :: right => (a.compare b).then (compareComponents left right)

def compare (left right : RawPath) : Ordering :=
  compareComponents left.components right.components

def isWithin (candidate scope : RawPath) : Bool :=
  candidate.lossy.isWithin scope.lossy

end RawPath

end FileSearch

import FileSearch.Attribute

set_option autoImplicit false

namespace FileSearch

inductive Scalar where
  | bytes (value : UInt64)
  | time (value : Instant)
  deriving DecidableEq

inductive Predicate where
  | always
  | contains (attr : Attribute) (needle : String)
  | endsWith (attr : Attribute) (suffix : String)
  | atLeast (attr : Attribute) (bound : Scalar)
  | atMost (attr : Attribute) (bound : Scalar)
  | and (parts : List Predicate)
  | or (parts : List Predicate)

namespace Predicate

def all : List Predicate → Predicate
  | [] => .always
  | [part] => part
  | parts => .and parts

def any : List Predicate → Predicate
  | [] => .always
  | [part] => part
  | parts => .or parts

def compareBound (file : Attributes) (attr : Attribute) : Scalar → Option Ordering
  | .bytes bound => (file.bytes attr).map (compare · bound)
  | .time bound => (file.time attr).map (compare · bound)

def hasEnding (file : Attributes) (attr : Attribute) (suffix : String) : Bool :=
  match file.text attr with
  | some value => Text.endsWith (Text.lowercase value) (Text.lowercase suffix)
  | none => false

mutual

/-- Whether a condition holds of a file. A test of an attribute that is missing does not hold, and
a choice among no parts does. -/
def holds (file : Attributes) : Predicate → Bool
  | .always => true
  | .contains attr needle => file.containsText attr (Text.lowercase needle)
  | .endsWith attr suffix => hasEnding file attr suffix
  | .atLeast attr bound => (compareBound file attr bound).any Ordering.isGE
  | .atMost attr bound => (compareBound file attr bound).any Ordering.isLE
  | .and parts => allHold file parts
  | .or parts => parts.isEmpty || anyHolds file parts

def allHold (file : Attributes) : List Predicate → Bool
  | [] => true
  | part :: rest => holds file part && allHold file rest

def anyHolds (file : Attributes) : List Predicate → Bool
  | [] => false
  | part :: rest => holds file part || anyHolds file rest

end

end Predicate

end FileSearch

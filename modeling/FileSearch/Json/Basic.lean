import FileSearch.Decimal.Shortest

set_option autoImplicit false

namespace FileSearch

inductive JsonNumber where
  | integer (value : Int)
  | float (negative : Bool) (magnitude : Binary64)
  deriving Repr, DecidableEq

-- A JSON value. The members of an object stand in ascending order of their names, each name once.
inductive Json where
  | null
  | bool (value : Bool)
  | number (value : JsonNumber)
  | string (value : String)
  | array (items : List Json)
  | object (members : List (String × Json))

-- A JSON text as it was read from left to right.
inductive Draft where
  | null
  | bool (value : Bool)
  | number (value : JsonNumber)
  | string (value : String)
  | array (items : List Draft)
  -- Members in the order of the text; a name is missing if it is no text or could not be read.
  | object (members : List (Option String × Draft))
  -- A string that is no text, or a number that is too large.
  | unreadable
  -- The text breaks the rules here. It is the last thing that was read.
  | broken
  deriving Inhabited

namespace JsonNumber

def integerEnd : Nat := twoTo 64

def positional : Int × Int := (-5, 15)

def pointed : List Char → List Char
  | first :: second :: rest => first :: '.' :: second :: rest
  | digits => digits

def floatText (magnitude : Binary64) : List Char :=
  let shortest := magnitude.shortest
  let digits := Nat.toDigits 10 shortest.digits
  let exponent := shortest.exponent + (digits.length - 1 : Nat)
  let (lowest, highest) := positional
  if magnitude.isZero then ['0', '.', '0']
  else if exponent < lowest ∨ highest < exponent then
    pointed digits ++ 'e' :: (if exponent < 0 then '-' else '+') :: Nat.toDigits 10 exponent.natAbs
  else if exponent < 0 then
    '0' :: '.' :: List.replicate (exponent.natAbs - 1) '0' ++ digits
  else
    let whole := exponent.toNat + 1
    let fraction := digits.drop whole
    digits.take whole ++ List.replicate (whole - digits.length) '0' ++
      '.' :: (if fraction.isEmpty then ['0'] else fraction)

def integerText (value : Int) : List Char :=
  (if value < 0 then ['-'] else []) ++ Nat.toDigits 10 value.natAbs

def text : JsonNumber → List Char
  | .integer value => integerText value
  | .float negative magnitude => (if negative then ['-'] else []) ++ floatText magnitude

end JsonNumber

namespace Json

def member? (name : String) : List (String × Json) → Option Json
  | [] => none
  | (other, value) :: rest => if other = name then some value else member? name rest

def insertMember (name : String) (value : Json) : List (String × Json) → List (String × Json)
  | [] => [(name, value)]
  | (other, old) :: rest =>
    if name = other then (name, value) :: rest
    else if name < other then (name, value) :: (other, old) :: rest
    else (other, old) :: insertMember name value rest

end Json

namespace Draft

def maxDepth : Nat := 127

mutual

/-- The value that a draft stands for, if all of it could be read and it is not nested deeper than
`depth`. Of several members of one name the last counts. -/
def settle (depth : Nat) : Draft → Option Json
  | .null => some .null
  | .bool value => some (.bool value)
  | .number value => some (.number value)
  | .string value => some (.string value)
  | .array items => if depth = 0 then none else (settleItems (depth - 1) items).map .array
  | .object members =>
    if depth = 0 then none else (settleMembers (depth - 1) members []).map .object
  | .unreadable => none
  | .broken => none

def settleItems (depth : Nat) : List Draft → Option (List Json)
  | [] => some []
  | item :: rest => do
    let item ← settle depth item
    let rest ← settleItems depth rest
    some (item :: rest)

def settleMembers (depth : Nat) :
    List (Option String × Draft) → List (String × Json) → Option (List (String × Json))
  | [], settled => some settled
  | (name, value) :: rest, settled => do
    let name ← name
    let value ← settle depth value
    settleMembers depth rest (Json.insertMember name value settled)

end

mutual

def isWhole : Draft → Bool
  | .array items => areWhole items
  | .object members => haveWholeValues members
  | .broken => false
  | _ => true

def areWhole : List Draft → Bool
  | [] => true
  | item :: rest => isWhole item && areWhole rest

def haveWholeValues : List (Option String × Draft) → Bool
  | [] => true
  | (_, value) :: rest => isWhole value && haveWholeValues rest

end

end Draft

end FileSearch

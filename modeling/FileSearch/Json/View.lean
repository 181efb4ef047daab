import FileSearch.Json.Fault

set_option autoImplicit false

namespace FileSearch

-- What a decoder sees. The name of a member is missing if it could not be read.
inductive View (α : Type) where
  | null
  | bool (value : Bool)
  | number (value : JsonNumber)
  | string (value : String)
  | array (items : List α)
  | object (members : List (Option String × α))
  | unreadable

class Readable (α : Type) where
  view : α → View α
  surplus : (given taken : Nat) → Fault
  -- Whether a value may stand where nobody asks for it.
  passable : α → Bool

def View.map {α β : Type} (f : α → β) : View α → View β
  | .null => .null
  | .bool value => .bool value
  | .number value => .number value
  | .string value => .string value
  | .array items => .array (items.map f)
  | .object members => .object (members.map fun (name, value) => (name, f value))
  | .unreadable => .unreadable

structure Held where
  json : Json

instance : Readable Draft where
  view
    | .null => .null
    | .bool value => .bool value
    | .number value => .number value
    | .string value => .string value
    | .array items => .array items
    | .object members => .object members
    | .unreadable => .unreadable
    | .broken => .unreadable
  surplus _ _ := .malformed
  passable := Draft.isWhole

def Json.view : Json → View Json
  | .null => .null
  | .bool value => .bool value
  | .number value => .number value
  | .string value => .string value
  | .array items => .array items
  | .object members => .object (members.map fun (name, value) => (some name, value))

instance : Readable Json where
  view := Json.view
  surplus given _ := .wrongLength given "fewer elements in array"
  passable _ := true

instance : Readable Held where
  view held := held.json.view.map Held.mk
  surplus given taken := .wrongLength given <|
    if taken = 1 then "1 element in sequence" else taken.repr ++ " elements in sequence"
  passable _ := true

end FileSearch

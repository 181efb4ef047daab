import FileSearch.Json.Decoder

set_option autoImplicit false

namespace FileSearch

inductive Presence where
  | required
  -- It may be left out of an object, but not of an array.
  | named
  -- It may be left out of an object, or at the end of an array.
  | optional
  deriving Repr, DecidableEq

structure Field (α σ : Type) where
  name : String
  alias? : Option String := none
  presence : Presence := .optional
  set : α → σ → Except Fault σ

structure RecordShape (α σ : Type) where
  name : String
  fields : List (Field α σ)

namespace Field

variable {α σ : Type}

def answersTo (name : String) (field : Field α σ) : Bool :=
  field.name == name || field.alias? == some name

end Field

namespace RecordShape

variable {α σ : Type} [Readable α]

-- Reads members in their order; `seen` are the fields read before.
def readMembers (fields : List (Field α σ)) :
    List (Option String × α) → List String → σ → Except Fault (List String × σ)
  | [], seen, record => .ok (seen, record)
  -- Reading stopped at this name.
  | (none, _) :: _, _, _ => .error .malformed
  | (some name, value) :: rest, seen, record =>
    match fields.find? (Field.answersTo name) with
    | some field =>
      if seen.contains field.name then .error (.duplicateField field.name)
      else do
        let record ← field.set value record
        readMembers fields rest (field.name :: seen) record
    | none =>
      if Readable.passable value then readMembers fields rest seen record
      else .error .malformed

def checkRequired (seen : List String) : List (Field α σ) → Except Fault Unit
  | [] => .ok ()
  | field :: rest =>
    if field.presence = .required ∧ ¬ seen.contains field.name then
      .error (.missingField field.name)
    else checkRequired seen rest

def readObject (fields : List (Field α σ)) (members : List (Option String × α)) (start : σ) :
    Except Fault σ := do
  let (seen, record) ← readMembers fields members [] start
  checkRequired seen fields
  .ok record

def sizeText (shape : RecordShape α σ) : String :=
  let count := shape.fields.length
  shape.name ++ " with " ++ count.repr ++ (if count = 1 then " element" else " elements")

-- Reads the items of an array; `taken` fields were read before.
def readItems (size : String) : List (Field α σ) → List α → Nat → σ → Except Fault σ
  | [], [], _, record => .ok record
  | [], extra, taken, _ => .error (Readable.surplus α (taken + extra.length) taken)
  | field :: fields, [], taken, record =>
    if field.presence = .optional then readItems size fields [] (taken + 1) record
    else .error (.wrongLength taken size)
  | field :: fields, item :: items, taken, record => do
    let record ← field.set item record
    readItems size fields items (taken + 1) record

def read (shape : RecordShape α σ) (start : σ) : Decoder α σ := fun source =>
  match Readable.view source with
  | .object members => readObject shape.fields members start
  | .array items => readItems shape.sizeText shape.fields items 0 start
  | view => .error (Decoder.mismatch shape.name view)

end RecordShape

end FileSearch

import FileSearch.Json.Reader
import FileSearch.Json.View

set_option autoImplicit false

namespace FileSearch

abbrev Decoder (α β : Type) := α → Except Fault β

namespace Decoder

variable {α β σ : Type} [Readable α]

def mismatch (expected : String) : View α → Fault
  | .null => .wrongType .null expected
  | .bool value => .wrongType (.bool value) expected
  | .number value => .wrongType (.number value) expected
  | .string value => .wrongType (.string value) expected
  | .array _ => .wrongType .sequence expected
  | .object _ => .wrongType .map expected
  | .unreadable => .malformed

def text (expected : String) : Decoder α String := fun source =>
  match Readable.view source with
  | .string value => .ok value
  | view => .error (mismatch expected view)

def string : Decoder α String := text "a string"

def bool : Decoder α Bool := fun source =>
  match Readable.view source with
  | .bool value => .ok value
  | view => .error (mismatch "a boolean" view)

-- A natural number below 2^64; `width` is the name of that range.
def natural (width : String) : Decoder α Nat := fun source =>
  match Readable.view source with
  | .number (.integer value) =>
    if 0 ≤ value ∧ value < JsonNumber.integerEnd then .ok value.toNat
    else .error (.wrongValue (.number (.integer value)) width)
  | view => .error (mismatch width view)

def moment : Decoder α Instant := fun source => do
  let text ← text "an RFC 3339 formatted date and time string" source
  match Instant.read text with
  | .ok moment => .ok moment
  | .error cause => .error (.badMoment cause)

def option (decoder : Decoder α β) : Decoder α (Option β) := fun source =>
  match Readable.view source with
  | .null => .ok none
  | _ => (decoder source).map some

def each (decoder : Decoder α β) : List α → Except Fault (List β)
  | [] => .ok []
  | item :: rest => do
    let item ← decoder item
    let rest ← each decoder rest
    .ok (item :: rest)

def list (decoder : Decoder α β) : Decoder α (List β) := fun source =>
  match Readable.view source with
  | .array items => each decoder items
  | view => .error (mismatch "a sequence" view)

def choose (table : List (String × β)) (name : String) : Except Fault β :=
  match table.lookup name with
  | some value => .ok value
  | none => .error (.unknownVariant name (table.map Prod.fst))

def nothing : Decoder α Unit := fun source =>
  match Readable.view source with
  | .null => .ok ()
  | view => .error (mismatch "unit" view)

def variant (table : List (String × β)) : Decoder α β := fun source =>
  match Readable.view source with
  | .string name => choose table name
  | .object [(some name, value)] => do
    let chosen ← choose table name
    nothing value
    .ok chosen
  | .object _ => .error (.wrongValue .map "map with a single key")
  | view => .error (mismatch "string or map" view)

end Decoder

-- Decodes a text in its own order, so that the fault that comes first in the text is found.
def Draft.decodeWhole {β : Type} (decoder : Decoder Draft β) (text : String) : Except Fault β := do
  let (draft, isWhole) := Draft.read text
  let decoded ← decoder draft
  if isWhole then .ok decoded else .error .malformed

end FileSearch

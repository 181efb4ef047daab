import FileSearch.Error
import FileSearch.Json.Text
import FileSearch.Request.Fields
import FileSearch.Time.Text

set_option autoImplicit false

namespace FileSearch

structure ResultRecord where
  path : Path
  name : String
  kind? : Option String := none
  size? : Option UInt64 := none
  createdAt? : Option Instant := none
  modifiedAt? : Option Instant := none
  deriving DecidableEq

def ResultRecord.extension? (record : ResultRecord) : Option String :=
  extensionOfName record.name

structure SearchResults where
  records : List ResultRecord
  isPartial : Bool
  deriving DecidableEq

namespace ResultRecord

def optional {β : Type} (write : β → Draft) : Option β → Draft
  | none => .null
  | some value => write value

def draft (record : ResultRecord) : Draft :=
  .object
    [(some "path", .string record.path.text),
     (some "name", .string record.name),
     (some "kind", optional .string record.kind?),
     (some "size", optional (fun n => .number (.integer n.toNat)) record.size?),
     (some "createdAt", optional (fun moment => .string moment.text) record.createdAt?),
     (some "modifiedAt", optional (fun moment => .string moment.text) record.modifiedAt?)]

variable {α : Type} [Readable α]

def shape : RecordShape α ResultRecord where
  name := "struct ResultRecord"
  fields :=
    [{ name := "path", presence := .required
       set := fun source record => do
         .ok { record with path := ← Path.decode source } },
     { name := "name", presence := .required
       set := fun source record => do
         .ok { record with name := ← Decoder.string source } },
     { name := "kind", presence := .named
       set := fun source record => do
         .ok { record with kind? := ← Decoder.option Decoder.string source } },
     { name := "size", presence := .named
       set := fun source record => do
         let size ← Decoder.option (Decoder.natural "u64") source
         .ok { record with size? := size.map UInt64.ofNat } },
     { name := "createdAt", presence := .named
       set := fun source record => do
         .ok { record with createdAt? := ← Decoder.option Decoder.moment source } },
     { name := "modifiedAt", presence := .named
       set := fun source record => do
         .ok { record with modifiedAt? := ← Decoder.option Decoder.moment source } }]

def decode : Decoder α ResultRecord := shape.read { path := ⟨""⟩, name := "" }

end ResultRecord

namespace SearchResults

def draft (results : SearchResults) : Draft :=
  .object
    [(some "records", .array (results.records.map ResultRecord.draft)),
     (some "partial", .bool results.isPartial)]

def render (results : SearchResults) : String :=
  results.draft.render

variable {α : Type} [Readable α]

def shape : RecordShape α SearchResults where
  name := "struct SearchResults"
  fields :=
    [{ name := "records", presence := .required
       set := fun source results => do
         .ok { results with records := ← Decoder.list ResultRecord.decode source } },
     { name := "partial", presence := .required
       set := fun source results => do
         .ok { results with isPartial := ← Decoder.bool source } }]

def decode : Decoder α SearchResults := shape.read ⟨[], false⟩

def ofText (text : String) : Except SearchError SearchResults :=
  (Draft.decodeWhole decode text).mapError .serialization

end SearchResults

end FileSearch

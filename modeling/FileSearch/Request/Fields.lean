import FileSearch.FlatSearch
import FileSearch.Json.Record
import FileSearch.Order

set_option autoImplicit false

namespace FileSearch

variable {α : Type} [Readable α]

def Path.decode : Decoder α Path := fun source =>
  (Decoder.text "path string" source).map Path.mk

namespace DateRange

def fields : List (Field α DateRange) :=
  [{ name := "from"
     set := fun source range => do
       .ok { range with earliest? := ← Decoder.option Decoder.moment source } },
   { name := "to"
     set := fun source range => do
       .ok { range with latest? := ← Decoder.option Decoder.moment source } }]

def decode : Decoder α DateRange :=
  RecordShape.read { name := "struct DateRange", fields := fields } {}

end DateRange

namespace SizeRange

def bound : Decoder α (Option UInt64) := fun source => do
  let bound ← Decoder.option (Decoder.natural "u64") source
  .ok (bound.map UInt64.ofNat)

def fields : List (Field α SizeRange) :=
  [{ name := "min"
     set := fun source range => do .ok { range with least? := ← bound source } },
   { name := "max"
     set := fun source range => do .ok { range with most? := ← bound source } }]

end SizeRange

namespace FlatSearch

def fields : List (Field α FlatSearch) :=
  [{ name := "query"
     set := fun source search => do
       .ok { search with query := ← Decoder.string source } },
   { name := "queryType"
     set := fun source search => do
       let kind ← Decoder.option Decoder.string source
       .ok { search with kind? := kind.map TextKind.parse } },
   { name := "extensions"
     set := fun source search => do
       .ok { search with extensions := ← Decoder.list Decoder.string source } },
   { name := "onlyIn"
     set := fun source search => do
       .ok { search with onlyIn := ← Decoder.list Path.decode source } },
   { name := "dateFilter"
     set := fun source search => do
       .ok { search with dateFilter? := ← Decoder.option DateRange.decode source } },
   { name := "filenameOnly"
     set := fun source search => do
       .ok { search with filenameOnly? := ← Decoder.option Decoder.bool source } }]

def decode : Decoder α FlatSearch :=
  RecordShape.read { name := "struct LegacyRequest", fields := fields } {}

end FlatSearch

namespace SortSpec

def fieldNames : List (String × SortField) :=
  [("name", .name), ("dateModified", .dateModified), ("dateCreated", .dateCreated),
   ("size", .size)]

def directionNames : List (String × SortDirection) :=
  [("ascending", .ascending), ("descending", .descending)]

def fields : List (Field α SortSpec) :=
  [{ name := "field"
     set := fun source sort => do
       .ok { sort with field := ← Decoder.variant fieldNames source } },
   { name := "direction"
     set := fun source sort => do
       .ok { sort with direction := ← Decoder.variant directionNames source } }]

def decode : Decoder α SortSpec :=
  RecordShape.read { name := "struct SortSpec", fields := fields } {}

end SortSpec

end FileSearch

import FileSearch.FlatSearch
import FileSearch.Order
import FileSearch.Request.Filters

set_option autoImplicit false

namespace FileSearch

inductive Criteria where
  | query (query : Query)
  | flat (search : FlatSearch)
  deriving DecidableEq

def Criteria.toQuery : Criteria → Query
  | .query asked => asked
  | .flat search => search.toQuery

structure SearchRequest where
  criteria : Criteria
  sort : SortSpec := {}
  limit? : Option Nat := none
  timeoutMs? : Option Nat := none
  deriving DecidableEq

structure RequestDraft where
  groups? : Option (List GroupDraft) := none
  field? : Option SortField := none
  direction? : Option SortDirection := none
  limit? : Option Nat := none
  timeoutMs? : Option Nat := none

def RequestDraft.fields : List (Field Json RequestDraft) :=
  [{ name := "filterGroups"
     set := fun source request => do
       .ok { request with groups? := ← Decoder.option (Decoder.list GroupDraft.decode) source } },
   { name := "sortBy"
     set := fun source request => do
       let field ← Decoder.option (Decoder.variant SortSpec.fieldNames) source
       .ok { request with field? := field } },
   { name := "sortDirection"
     set := fun source request => do
       let direction ← Decoder.option (Decoder.variant SortSpec.directionNames) source
       .ok { request with direction? := direction } },
   { name := "limit"
     set := fun source request => do
       .ok { request with limit? := ← Decoder.option (Decoder.natural "usize") source } },
   { name := "timeoutMs"
     set := fun source request => do
       .ok { request with timeoutMs? := ← Decoder.option (Decoder.natural "u64") source } }]

namespace FlatSearch

def withNormalPaths (home : Option String) (search : FlatSearch) : Except PathError FlatSearch := do
  .ok { search with onlyIn := ← Path.ofScopeTexts home (search.onlyIn.map Path.text) }

end FlatSearch

namespace SearchRequest

def decodeParts (json : Json) : Except Fault (RequestDraft × FlatSearch) :=
  match json.view with
  | .object members => do
    let request ← RecordShape.readObject RequestDraft.fields members {}
    let held := members.map fun (name, value) => (name, Held.mk value)
    let search ← RecordShape.readObject FlatSearch.fields held {}
    .ok (request, search)
  | view => .error (Decoder.mismatch "struct WireRequest" view)

-- What a request searches for: its groups, if it has any member of that name that is not null.
def criteria? (home : Option String) (groups? : Option (List GroupDraft)) (search : FlatSearch) :
    Except FilterError Criteria :=
  match groups? with
  | some groups => do
    let groups ← GroupDraft.settleAll home 0 groups
    .ok (.query ⟨groups⟩)
  | none => do
    let search ← (search.withNormalPaths home).mapError FilterError.badPath
    .ok (.flat search)

-- Decodes a request. Faults in filters and paths are errors of another kind than those in all else.
def ofJson (home : Option String) (json : Json) : Except SearchError SearchRequest := do
  let (request, search) ← (decodeParts json).mapError SearchError.serialization
  let criteria ← (criteria? home request.groups? search).mapError SearchError.invalidFilter
  .ok
    { criteria
      sort := ⟨request.field?.getD .name, request.direction?.getD .ascending⟩
      limit? := request.limit?
      timeoutMs? := request.timeoutMs? }

def ofText (home : Option String) (text : String) : Except SearchError SearchRequest :=
  match Json.read? text with
  | some json => ofJson home json
  | none => .error (.serialization .malformed)

end SearchRequest

def FlatSearch.ofText (text : String) : Except SearchError FlatSearch :=
  (Draft.decodeWhole FlatSearch.decode text).mapError .serialization

end FileSearch

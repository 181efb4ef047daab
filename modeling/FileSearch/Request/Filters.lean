import FileSearch.Error
import FileSearch.Request.Fields

set_option autoImplicit false

namespace FileSearch

inductive FilterKind where
  | content
  | fileName
  | extension
  | dateModified
  | dateCreated
  | size
  | paths
  deriving DecidableEq, Repr

namespace FilterKind

def names : List (String × FilterKind) :=
  [("content", .content), ("filename", .fileName), ("extension", .extension),
   ("extensions", .extension), ("dateModified", .dateModified), ("dateCreated", .dateCreated),
   ("size", .size), ("paths", .paths)]

def title : FilterKind → String
  | .content => "struct variant WireFilter::Content"
  | .fileName => "struct variant WireFilter::Filename"
  | .extension => "struct variant WireFilter::Extension"
  | .dateModified => "struct variant WireFilter::DateModified"
  | .dateCreated => "struct variant WireFilter::DateCreated"
  | .size => "struct variant WireFilter::Size"
  | .paths => "struct variant WireFilter::Paths"

def ofTag (tag : Held) : Except Fault FilterKind :=
  match Readable.view tag with
  | .string name => Decoder.choose names name
  | view => .error (Decoder.mismatch "variant identifier" view)

def textFields : List (Field Held String) :=
  [{ name := "text", presence := .required
     set := fun source _ => Decoder.string source }]

def valuesFields : List (Field Held (List String)) :=
  [{ name := "values", presence := .required
     set := fun source _ => Decoder.list Decoder.string source }]

-- The filter of a kind, whose fields `read` reads. Directories are kept as they were written.
def decode (kind : FilterKind)
    (read : {σ : Type} → RecordShape Held σ → σ → Except Fault σ) : Except Fault Filter :=
  match kind with
  | .content => (read ⟨kind.title, textFields⟩ "").map .content
  | .fileName => (read ⟨kind.title, textFields⟩ "").map .fileName
  | .extension => (read ⟨kind.title, valuesFields⟩ []).map .extensionsOf
  | .dateModified => (read ⟨kind.title, DateRange.fields⟩ {}).map .dateModified
  | .dateCreated => (read ⟨kind.title, DateRange.fields⟩ {}).map .dateCreated
  | .size => (read ⟨kind.title, SizeRange.fields⟩ {}).map .size
  | .paths => (read ⟨kind.title, valuesFields⟩ []).map fun values => .paths (values.map Path.mk)

end FilterKind

namespace Filter

def tagName : String := "type"

def decodeMembers (members : List (Option String × Held)) : Except Fault Filter :=
  match members.lookup (some tagName) with
  | none => .error (.missingField tagName)
  | some tag => do
    let kind ← FilterKind.ofTag tag
    kind.decode fun shape start => RecordShape.readObject shape.fields members start

def decodeItems : List Held → Except Fault Filter
  | [] => .error (.missingField tagName)
  | tag :: items => do
    let kind ← FilterKind.ofTag tag
    kind.decode fun shape start => RecordShape.readItems shape.sizeText shape.fields items 0 start

def decode : Decoder Held Filter := fun held =>
  match Readable.view held with
  | .object members => decodeMembers members
  | .array items => decodeItems items
  | view => .error (Decoder.mismatch "internally tagged enum WireFilter" view)

def withNormalPaths (home : Option String) : Filter → Except PathError Filter
  | .paths values => (Path.ofScopeTexts home (values.map Path.text)).map .paths
  | filter => .ok filter

end Filter

structure GroupDraft where
  filters : List Json := []
  combinator : Combinator := .and

namespace GroupDraft

def combinatorNames : List (String × Combinator) :=
  [("and", .and), ("or", .or)]

def fields : List (Field Json GroupDraft) :=
  [{ name := "filters"
     set := fun source group => do
       .ok { group with filters := ← Decoder.list Except.ok source } },
   { name := "combination", alias? := some "combinator"
     set := fun source group => do
       .ok { group with combinator := ← Decoder.variant combinatorNames source } }]

def decode : Decoder Json GroupDraft :=
  RecordShape.read { name := "struct WireGroup", fields := fields } {}

def settleFilter (home : Option String) (group : Nat) (source : Json) : Except FilterError Filter := do
  let filter ← (Filter.decode ⟨source⟩).mapError (FilterError.badFilter group)
  (filter.withNormalPaths home).mapError FilterError.badPath

def settleFilters (home : Option String) (group : Nat) : List Json → Except FilterError (List Filter)
  | [] => .ok []
  | source :: rest => do
    let filter ← settleFilter home group source
    let others ← settleFilters home group rest
    .ok (filter :: others)

def settle (home : Option String) (group : Nat) (draft : GroupDraft) :
    Except FilterError FilterGroup :=
  if draft.filters.isEmpty then .error (.emptyGroup group)
  else do
    let filters ← settleFilters home group draft.filters
    .ok ⟨filters, draft.combinator⟩

def settleAll (home : Option String) (group : Nat) :
    List GroupDraft → Except FilterError (List FilterGroup)
  | [] => .ok []
  | draft :: rest => do
    let first ← draft.settle home group
    let others ← settleAll home (group + 1) rest
    .ok (first :: others)

end GroupDraft

end FileSearch

import FileSearch.Text.Lowercase
import FileSearch.Text.Substring
import FileSearch.Time.Instant

set_option autoImplicit false

namespace FileSearch

inductive Attribute where
  | path
  | fileName
  | displayName
  | textContent
  | kind
  | size
  | createdAt
  | modifiedAt
  deriving DecidableEq, Repr

namespace Attribute

def recorded : List Attribute :=
  [.path, .fileName, .displayName, .kind, .size, .createdAt, .modifiedAt]

def key : Attribute → String
  | .path => "kMDItemPath"
  | .fileName => "kMDItemFSName"
  | .displayName => "kMDItemDisplayName"
  | .textContent => "kMDItemTextContent"
  | .kind => "kMDItemKind"
  | .size => "kMDItemFSSize"
  | .createdAt => "kMDItemFSCreationDate"
  | .modifiedAt => "kMDItemFSContentChangeDate"

end Attribute

structure Attributes where
  text : Attribute → Option String
  bytes : Attribute → Option UInt64
  time : Attribute → Option Instant
  containsText : Attribute → String → Bool := fun attr needle =>
    match text attr with
    | some value => Text.contains (Text.lowercase value) needle
    | none => false

inductive AttributeValue where
  | text (value : String)
  | bytes (value : UInt64)
  | time (value : Instant)
  deriving DecidableEq

structure RawRecord where
  get? : Attribute → Option AttributeValue

namespace RawRecord

def empty : RawRecord := ⟨fun _ => none⟩

def set (record : RawRecord) (attr : Attribute) (value : AttributeValue) : RawRecord :=
  ⟨fun other => if other = attr then some value else record.get? other⟩

def text (record : RawRecord) (attr : Attribute) : Option String :=
  match record.get? attr with
  | some (.text value) => some value
  | _ => none

def bytes (record : RawRecord) (attr : Attribute) : Option UInt64 :=
  match record.get? attr with
  | some (.bytes value) => some value
  | _ => none

def time (record : RawRecord) (attr : Attribute) : Option Instant :=
  match record.get? attr with
  | some (.time value) => some value
  | _ => none

def attributes (record : RawRecord) : Attributes where
  text := record.text
  bytes := record.bytes
  time := record.time

def captured (source : Attributes) : Attribute → Option AttributeValue
  | .textContent => none
  | .size => (source.bytes .size).map .bytes
  | .createdAt => (source.time .createdAt).map .time
  | .modifiedAt => (source.time .modifiedAt).map .time
  | attr => (source.text attr).map .text

def capture (source : Attributes) : RawRecord := ⟨captured source⟩

end RawRecord

end FileSearch

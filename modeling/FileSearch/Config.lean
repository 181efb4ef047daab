import FileSearch.Error
import FileSearch.Request.Fields

set_option autoImplicit false

namespace FileSearch

structure SearchConfig where
  defaultLimit : Nat := 200
  maxLimit : Nat := 1000
  defaultTimeoutMs : Nat := 10000
  defaultScopes : List Path := []
  deriving DecidableEq, Repr

namespace SearchConfig

def effectiveLimit (config : SearchConfig) (requested : Option Nat) : Nat :=
  max 1 (min (requested.getD config.defaultLimit) (max 1 config.maxLimit))

variable {α : Type} [Readable α]

def shape : RecordShape α SearchConfig where
  name := "struct SearchConfig"
  fields :=
    [{ name := "defaultLimit"
       set := fun source config => do
         .ok { config with defaultLimit := ← Decoder.natural "usize" source } },
     { name := "maxLimit"
       set := fun source config => do
         .ok { config with maxLimit := ← Decoder.natural "usize" source } },
     { name := "defaultTimeoutMs"
       set := fun source config => do
         .ok { config with defaultTimeoutMs := ← Decoder.natural "u64" source } },
     { name := "defaultScopes"
       set := fun source config => do
         .ok { config with defaultScopes := ← Decoder.list Path.decode source } }]

def decode : Decoder α SearchConfig := shape.read {}

def ofText (text : String) : Except SearchError SearchConfig :=
  (Draft.decodeWhole decode text).mapError .serialization

def ofFile : Option ByteArray → Except SearchError SearchConfig
  | none => .error (.io "No such file or directory (os error 2)")
  | some content =>
    match String.fromUTF8? content with
    | some text => ofText text
    | none => .error (.io "stream did not contain valid UTF-8")

end SearchConfig

end FileSearch

import FileSearch.Json.Basic
import FileSearch.Text.Quoted
import FileSearch.Time.Reader

set_option autoImplicit false

namespace FileSearch

inductive Found where
  | null
  | bool (value : Bool)
  | number (value : JsonNumber)
  | string (value : String)
  | sequence
  | map
  deriving Repr, DecidableEq

inductive Fault where
  | malformed
  | wrongType (found : Found) (expected : String)
  | wrongValue (found : Found) (expected : String)
  | wrongLength (given : Nat) (expected : String)
  | unknownVariant (name : String) (variants : List String)
  | missingField (name : String)
  | duplicateField (name : String)
  | badMoment (cause : TimeError)
  deriving Repr, DecidableEq

def Found.message : Found → String
  | .null => "null"
  | .bool value => "boolean `" ++ (if value then "true" else "false") ++ "`"
  | .number (.integer value) => "integer `" ++ String.ofList (JsonNumber.integerText value) ++ "`"
  | .number value => "floating point `" ++ String.ofList value.text ++ "`"
  | .string value => "string " ++ Text.quoted value
  | .sequence => "sequence"
  | .map => "map"

namespace Fault

def ticked (name : String) : String := "`" ++ name ++ "`"

def choiceText : List String → String
  | [] => "there are no variants"
  | [name] => ticked name
  | [first, second] => ticked first ++ " or " ++ ticked second
  | names => "one of " ++ ", ".intercalate (names.map ticked)

def message : Fault → String
  | .malformed => "malformed text"
  | .wrongType found expected => "invalid type: " ++ found.message ++ ", expected " ++ expected
  | .wrongValue found expected => "invalid value: " ++ found.message ++ ", expected " ++ expected
  | .wrongLength given expected => "invalid length " ++ given.repr ++ ", expected " ++ expected
  | .unknownVariant name variants =>
    "unknown variant " ++ ticked name ++ ", expected " ++ choiceText variants
  | .missingField name => "missing field " ++ ticked name
  | .duplicateField name => "duplicate field " ++ ticked name
  | .badMoment cause => cause.message

end Fault

end FileSearch

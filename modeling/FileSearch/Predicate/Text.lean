import FileSearch.Predicate.Basic
import FileSearch.Time.Text

set_option autoImplicit false

namespace FileSearch

-- The value as a bound: `up` says that it is an upper one.
def Scalar.chars (up : Bool) : Scalar → List Char
  | .bytes value => Nat.toDigits 10 value.toNat
  | .time value => "$time.iso(".toList ++ (value.widened up).wholeText.toList ++ [')']

namespace Predicate

def escapeChar (c : Char) : List Char :=
  if c = '"' ∨ c = '\\' ∨ c = '*' then ['\\', c] else [c]

def escape (text : String) : List Char :=
  text.toList.flatMap escapeChar

def alwaysChars : List Char :=
  Attribute.fileName.key.toList ++ " == \"*\"".toList

mutual

def chars : Predicate → List Char
  | .always => alwaysChars
  | .contains attr needle =>
    attr.key.toList ++ " == \"*".toList ++ escape needle ++ "*\"cd".toList
  | .endsWith attr suffix =>
    attr.key.toList ++ " == \"*".toList ++ escape suffix ++ "\"cd".toList
  | .atLeast attr bound => attr.key.toList ++ " >= ".toList ++ bound.chars false
  | .atMost attr bound => attr.key.toList ++ " <= ".toList ++ bound.chars true
  | .and [] => alwaysChars
  | .and (part :: rest) => '(' :: part.chars ++ joinedChars " && ".toList rest ++ [')']
  | .or [] => alwaysChars
  | .or (part :: rest) => '(' :: part.chars ++ joinedChars " || ".toList rest ++ [')']

def joinedChars (operator : List Char) : List Predicate → List Char
  | [] => []
  | part :: rest => operator ++ part.chars ++ joinedChars operator rest

end

def render (predicate : Predicate) : String :=
  String.ofList predicate.chars

end Predicate

end FileSearch

import FileSearch.Json.Basic

set_option autoImplicit false

namespace FileSearch

namespace Draft

def escapeChar (c : Char) : List Char :=
  match c with
  | '"' => ['\\', '"']
  | '\\' => ['\\', '\\']
  | '\x08' => ['\\', 'b']
  | '\x0c' => ['\\', 'f']
  | '\n' => ['\\', 'n']
  | '\r' => ['\\', 'r']
  | '\t' => ['\\', 't']
  | c =>
    if c.toNat < 0x20 then
      ['\\', 'u', '0', '0', Nat.digitChar (c.toNat / 16), Nat.digitChar (c.toNat % 16)]
    else [c]

def stringText (text : String) : List Char :=
  '"' :: text.toList.flatMap escapeChar ++ ['"']

mutual

def text : Draft → List Char
  | .null => ['n', 'u', 'l', 'l']
  | .bool true => ['t', 'r', 'u', 'e']
  | .bool false => ['f', 'a', 'l', 's', 'e']
  | .number n => n.text
  | .string s => stringText s
  | .array [] => ['[', ']']
  | .array (item :: rest) => '[' :: item.text ++ itemsText rest ++ [']']
  | .object [] => ['\x7b', '\x7d']
  | .object ((name, value) :: rest) =>
    '\x7b' :: stringText (name.getD "") ++ ':' :: value.text ++ membersText rest ++ ['\x7d']
  | .unreadable => []
  | .broken => []

def itemsText : List Draft → List Char
  | [] => []
  | item :: rest => ',' :: item.text ++ itemsText rest

def membersText : List (Option String × Draft) → List Char
  | [] => []
  | (name, value) :: rest =>
    ',' :: stringText (name.getD "") ++ ':' :: value.text ++ membersText rest

end

def render (draft : Draft) : String :=
  String.ofList draft.text

end Draft

namespace Json

mutual

def draft : Json → Draft
  | .null => .null
  | .bool value => .bool value
  | .number value => .number value
  | .string value => .string value
  | .array items => .array (draftItems items)
  | .object members => .object (draftMembers members)

def draftItems : List Json → List Draft
  | [] => []
  | item :: rest => item.draft :: draftItems rest

def draftMembers : List (String × Json) → List (Option String × Draft)
  | [] => []
  | (name, value) :: rest => (some name, value.draft) :: draftMembers rest

end

end Json

end FileSearch

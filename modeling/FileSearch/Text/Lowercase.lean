import FileSearch.Text.CaseTable

set_option autoImplicit false

namespace FileSearch.Text

def shiftCode (code : Nat) : List CaseShift → Nat
  | [] => code
  | entry :: rest =>
    if code < entry.first then code
    else if code ≤ entry.last ∧ (code - entry.first) % entry.step = 0 then
      (code + entry.shift).toNat
    else shiftCode code rest

def lowerChar (c : Char) : Char :=
  if c.toNat < 0x80 then c.toLower else Char.ofNat (shiftCode c.toNat lowerShifts)

def isCased (c : Char) : Bool :=
  covers c.toNat casedRanges

def isCaseIgnorable (c : Char) : Bool :=
  covers c.toNat caseIgnorableRanges

def meetsCased (text : List Char) : Bool :=
  match text.dropWhile isCaseIgnorable with
  | [] => false
  | c :: _ => isCased c

-- A sigma ends a word if a cased letter stands before it and none after it. `before` is the text in
-- front of the sigma, from right to left.
def endsWord (before after : List Char) : Bool :=
  meetsCased before && !meetsCased after

def pushLower (before after : List Char) (c : Char) (lowered : List Char) : List Char :=
  if c = 'Σ' then (if endsWord before after then 'ς' else 'σ') :: lowered
  else if c = 'İ' then '\u0307' :: 'i' :: lowered
  else lowerChar c :: lowered

-- Lowers a text from left to right; `before` and `lowered` run from right to left.
def lowerFrom (before : List Char) : List Char → List Char → List Char
  | [], lowered => lowered.reverse
  | c :: after, lowered => lowerFrom (c :: before) after (pushLower before after c lowered)

def lower (text : List Char) : List Char :=
  lowerFrom [] text []

def lowercase (text : String) : String :=
  String.ofList (lower text.toList)

def asciiLowercase (text : String) : String :=
  String.ofList (text.toList.map Char.toLower)

def sameIgnoringAsciiCase (left right : String) : Bool :=
  asciiLowercase left == asciiLowercase right

end FileSearch.Text

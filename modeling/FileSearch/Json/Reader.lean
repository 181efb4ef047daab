import FileSearch.Json.Basic

set_option autoImplicit false

namespace FileSearch

namespace JsonNumber

def accumulate : List Char → Nat → Nat × List Char
  | [], n => (n, [])
  | c :: rest, n =>
    let next := n * 10 + (c.toNat - '0'.toNat)
    if next < integerEnd then accumulate rest next else (n, c :: rest)

structure Literal where
  negative : Bool
  whole : List Char
  fraction : Option (List Char)
  exponent : Option (Bool × List Char)

-- The value of a literal with a fraction or an exponent, or one too long for an integer. As many
-- digits count as fit into 64 bits.
def Literal.float? (literal : Literal) : Option Binary64 :=
  let (significand, dropped) := accumulate literal.whole 0
  let fraction := literal.fraction.getD []
  let (significand, unread) := accumulate fraction significand
  let exponent : Int := dropped.length - (fraction.length - unread.length : Nat)
  match literal.exponent with
  | none => Binary64.ofDecimal? significand exponent
  | some (minus, digits) =>
    -- An exponent beyond 32 bits decides on its own.
    let n := Nat.ofDigitChars 10 digits 0
    if n ≤ 2147483647 then
      let shifted := if minus then exponent - n else exponent + n
      Binary64.ofDecimal? significand (max (-2147483648) (min 2147483647 shifted))
    else if significand = 0 ∨ minus then some Binary64.zero
    else none

/-- An integer literal that fits into 64 bits is an integer, any other literal a float, and so is
minus zero. None if the float is too large. -/
def Literal.number? (literal : Literal) : Option JsonNumber :=
  let n := Nat.ofDigitChars 10 literal.whole 0
  let isInteger := literal.fraction.isNone && literal.exponent.isNone &&
    (if literal.negative then 0 < n && 2 * n ≤ integerEnd else n < integerEnd)
  if isInteger then some (.integer (if literal.negative then -(n : Int) else n))
  else literal.float?.map (.float literal.negative)

end JsonNumber

namespace Draft.Reader

def skipBlank (text : List Char) : List Char :=
  text.dropWhile fun c => c = ' ' || c = '\n' || c = '\t' || c = '\r'

def digits? (text : List Char) : Option (List Char × List Char) :=
  let run := text.takeWhile Char.isDigit
  if run.isEmpty then none else some (run, text.dropWhile Char.isDigit)

def fraction? (text : List Char) : Option (Option (List Char) × List Char) :=
  match text with
  | '.' :: rest => (digits? rest).map fun (run, rest) => (some run, rest)
  | text => some (none, text)

def exponent? (text : List Char) : Option (Option (Bool × List Char) × List Char) :=
  let signed (rest : List Char) :=
    match rest with
    | '-' :: rest => (digits? rest).map fun (run, rest) => (some (true, run), rest)
    | '+' :: rest => (digits? rest).map fun (run, rest) => (some (false, run), rest)
    | rest => (digits? rest).map fun (run, rest) => (some (false, run), rest)
  match text with
  | 'e' :: rest => signed rest
  | 'E' :: rest => signed rest
  | text => some (none, text)

def literal? (text : List Char) : Option (JsonNumber.Literal × List Char) := do
  let (negative, text) := match text with
    | '-' :: rest => (true, rest)
    | text => (false, text)
  let (whole, text) ← digits? text
  if whole.length ≠ 1 ∧ whole.head? = some '0' then none
  else do
    let (fraction, text) ← fraction? text
    let (exponent, text) ← exponent? text
    some ({ negative, whole, fraction, exponent }, text)

def hexValue? (c : Char) : Option Nat :=
  if c.isDigit then some (c.toNat - '0'.toNat)
  else if 'a' ≤ c ∧ c ≤ 'f' then some (c.toNat - 'a'.toNat + 10)
  else if 'A' ≤ c ∧ c ≤ 'F' then some (c.toNat - 'A'.toNat + 10)
  else none

def escaped? (c : Char) : Option Char :=
  match c with
  | '"' => some '"'
  | '\\' => some '\\'
  | '/' => some '/'
  | 'b' => some '\x08'
  | 'f' => some '\x0c'
  | 'n' => some '\n'
  | 'r' => some '\r'
  | 't' => some '\t'
  | _ => none

def isHighSurrogate (unit : Nat) : Bool := 0xd800 ≤ unit && unit < 0xdc00

def isLowSurrogate (unit : Nat) : Bool := 0xdc00 ≤ unit && unit < 0xe000

inductive Within where
  | plain
  | escape
  | code (left value : Nat)

-- What was read of a string: its characters from right to left, a high surrogate that waits for its
-- partner, and whether all of it is text so far.
structure Characters where
  read : List Char
  waiting : Option Nat
  isText : Bool

namespace Characters

def push (chars : Characters) (c : Char) : Characters :=
  { read := c :: chars.read, waiting := none, isText := chars.isText && chars.waiting.isNone }

def pushUnit (chars : Characters) (unit : Nat) : Characters :=
  match chars.waiting with
  | some high =>
    if isLowSurrogate unit then
      let code := 0x10000 + (high - 0xd800) * 0x400 + (unit - 0xdc00)
      { chars with read := Char.ofNat code :: chars.read, waiting := none }
    else { chars with waiting := none, isText := false }
  | none =>
    if isHighSurrogate unit then { chars with waiting := some unit }
    else if isLowSurrogate unit then { chars with isText := false }
    else chars.push (Char.ofNat unit)

def finish (chars : Characters) : Option String :=
  if chars.isText && chars.waiting.isNone then some (String.ofList chars.read.reverse) else none

end Characters

def string? : List Char → Within → Characters → Option (Option String × List Char)
  | [], _, _ => none
  | c :: rest, .plain, chars =>
    if c = '"' then some (chars.finish, rest)
    else if c = '\\' then string? rest .escape chars
    else if c.toNat < 0x20 then none
    else string? rest .plain (chars.push c)
  | c :: rest, .escape, chars =>
    if c = 'u' then string? rest (.code 4 0) chars
    else match escaped? c with
      | some c => string? rest .plain (chars.push c)
      | none => none
  | c :: rest, .code left value, chars =>
    match hexValue? c with
    | none => none
    | some digit =>
      let value := value * 16 + digit
      if left ≤ 1 then string? rest .plain (chars.pushUnit value)
      else string? rest (.code (left - 1) value) chars

def startOfString : Characters := ⟨[], none, true⟩

mutual

def value (fuel : Nat) (text : List Char) : Draft × Option (List Char) :=
  match fuel with
  | 0 => (.broken, none)
  | fuel + 1 =>
    match skipBlank text with
    | 'n' :: 'u' :: 'l' :: 'l' :: rest => (.null, some rest)
    | 't' :: 'r' :: 'u' :: 'e' :: rest => (.bool true, some rest)
    | 'f' :: 'a' :: 'l' :: 's' :: 'e' :: rest => (.bool false, some rest)
    | '"' :: rest =>
      match string? rest .plain startOfString with
      | some (some text, rest) => (.string text, some rest)
      | some (none, rest) => (.unreadable, some rest)
      | none => (.broken, none)
    | '[' :: rest =>
      match skipBlank rest with
      | ']' :: rest => (.array [], some rest)
      | rest => items fuel rest []
    | '\x7b' :: rest =>
      match skipBlank rest with
      | '\x7d' :: rest => (.object [], some rest)
      | rest => members fuel rest []
    | text =>
      match literal? text with
      | some (literal, rest) =>
        match literal.number? with
        | some parsed => (.number parsed, some rest)
        | none => (.unreadable, some rest)
      | none => (.broken, none)

-- Reads the items of an array from the next one on; `done` holds those before it, last first.
def items (fuel : Nat) (text : List Char) (done : List Draft) : Draft × Option (List Char) :=
  match fuel with
  | 0 => (.broken, none)
  | fuel + 1 =>
    match value fuel text with
    | (item, none) => (.array (item :: done).reverse, none)
    | (item, some rest) =>
      match skipBlank rest with
      | ',' :: rest => items fuel rest (item :: done)
      | ']' :: rest => (.array (item :: done).reverse, some rest)
      -- Neither a comma nor the end: the next item is where reading stops.
      | _ => (.array (.broken :: item :: done).reverse, none)

def members (fuel : Nat) (text : List Char) (done : List (Option String × Draft)) :
    Draft × Option (List Char) :=
  match fuel with
  | 0 => (.broken, none)
  | fuel + 1 =>
    match skipBlank text with
    | '"' :: rest =>
      match string? rest .plain startOfString with
      | none => (.object ((none, .broken) :: done).reverse, none)
      | some (name, rest) =>
        match skipBlank rest with
        | ':' :: rest =>
          match value fuel rest with
          | (member, none) => (.object ((name, member) :: done).reverse, none)
          | (member, some rest) =>
            match skipBlank rest with
            | ',' :: rest => members fuel rest ((name, member) :: done)
            | '\x7d' :: rest => (.object ((name, member) :: done).reverse, some rest)
            | _ => (.object ((none, .broken) :: (name, member) :: done).reverse, none)
        | _ => (.object ((name, .broken) :: done).reverse, none)
    | _ => (.object ((none, .broken) :: done).reverse, none)

end

end Draft.Reader

-- Reads a text. The flag says whether nothing but white space stands behind the value.
def Draft.read (text : String) : Draft × Bool :=
  match Draft.Reader.value (2 * text.length + 2) text.toList with
  | (draft, none) => (draft, false)
  | (draft, some rest) => (draft, (Draft.Reader.skipBlank rest).isEmpty)

def Json.read? (text : String) : Option Json :=
  match Draft.read text with
  | (draft, true) => draft.settle Draft.maxDepth
  | (_, false) => none

end FileSearch

import FileSearch.Text.Blank
import FileSearch.Time.Date
import FileSearch.Time.Instant

set_option autoImplicit false

namespace FileSearch

inductive TimeError where
  | tooShort
  | invalid
  | trailing
  | outOfRange
  | beyondCalendar
  deriving Repr, DecidableEq

def TimeError.message : TimeError → String
  | .tooShort => "premature end of input"
  | .invalid => "input contains invalid characters"
  | .trailing => "trailing input"
  | .outOfRange => "input is out of range"
  | .beyondCalendar => "no possible date and time matching input"

namespace Instant.Reader

abbrev Read := Except TimeError

def digits (width : Option Nat) (text : List Char) : Read (Nat × List Char) :=
  match text with
  | [] => .error .tooShort
  | c :: _ =>
    if c.isDigit then
      let run := text.takeWhile Char.isDigit
      let taken := match width with
        | some width => run.take width
        | none => run
      .ok (Nat.ofDigitChars 10 taken 0, text.drop taken.length)
    else .error .invalid

def separator (mark : Char) (text : List Char) : Read (Unit × List Char) :=
  match Text.trimLeft text with
  | [] => .error .tooShort
  | c :: rest => if c = mark then .ok ((), rest) else .error .invalid

def field (lowest highest : Nat) (text : List Char) : Read (Nat × List Char) := do
  let (n, rest) ← digits (some 2) (Text.trimLeft text)
  if lowest ≤ n ∧ n ≤ highest then .ok (n, rest) else .error .outOfRange

def year (text : List Char) : Read (Int × List Char) := do
  let (year, rest) ← match Text.trimLeft text with
    | '-' :: rest => do
      let (n, rest) ← digits none rest
      pure (-(n : Int), rest)
    | '+' :: rest => do
      let (n, rest) ← digits none rest
      pure ((n : Int), rest)
    | text => do
      let (n, rest) ← digits (some 4) text
      pure ((n : Int), rest)
  if -2147483648 ≤ year ∧ year ≤ 2147483647 then .ok (year, rest) else .error .outOfRange

def fraction (text : List Char) : Read (Nat × List Char) :=
  match text with
  | '.' :: rest => do
    let (n, behind) ← digits (some 9) rest
    let width := rest.length - behind.length
    .ok (n * Nat.pow 10 (9 - width), behind.dropWhile Char.isDigit)
  | text => .ok (0, text)

def twoDigits (text : List Char) : Read (Nat × List Char) :=
  match text with
  | a :: b :: rest =>
    if a.isDigit && b.isDigit then .ok (Nat.ofDigitChars 10 [a, b] 0, rest) else .error .invalid
  -- One byte is too short for two digits, and a longer character is none.
  | [a] => if a.toNat < 0x80 then .error .tooShort else .error .invalid
  | [] => .error .tooShort

-- Seconds east of UTC: hours and minutes of two digits, with colons and white space allowed between
-- them.
def signedOffset (text : List Char) : Read (Int × List Char) := do
  let (sign, rest) ← match text with
    | [] => .error .tooShort
    | '+' :: rest => .ok ((1 : Int), rest)
    | '-' :: rest => .ok (-1, rest)
    | '−' :: rest => .ok (-1, rest)
    | _ => .error .invalid
  let (hours, rest) ← twoDigits rest
  let (minutes, rest) ← twoDigits (rest.dropWhile fun c => c = ':' || Text.isBlank c)
  if minutes < 60 then .ok (sign * (hours * 3600 + minutes * 60 : Nat), rest)
  else .error .outOfRange

def offset (text : List Char) : Read (Int × List Char) :=
  match text with
  | 'Z' :: rest => .ok (0, rest)
  | 'z' :: rest => .ok (0, rest)
  | text =>
    if (text.take 3).map Char.toLower = ['u', 't', 'c'] then .ok (0, text.drop 3)
    else signedOffset text

def middle (text : List Char) : Read (Unit × List Char) :=
  match text with
  | [] => .error .tooShort
  | c :: rest => if c = 'T' ∨ c = 't' ∨ c = ' ' then .ok ((), rest) else .error .invalid

/-- The moment at a date and time of day, as a clock shows it that is ahead of UTC. The date on the
clock has to lie in the calendar, and then the moment in UTC. -/
def assemble (date : Date) (hour minute second nano : Nat) (offset : Int) : Read Instant :=
  if date.Valid ∧ -262143 ≤ date.year ∧ date.year ≤ 262142 ∧ offset.natAbs < 86400 then
    -- A sixty-first second is kept as nanoseconds beyond the sixtieth.
    let (second, nano) := if second = 60 then (59, nano + 1000000000) else (second, nano)
    let seconds : Int := (hour * 3600 + minute * 60 + second : Nat)
    match Instant.ofParts? (date.toDays * 86400 + seconds - offset) nano with
    | some moment => .ok moment
    | none => .error .beyondCalendar
  else .error .outOfRange

end Instant.Reader

open Instant.Reader in
def Instant.read (text : String) : Except TimeError Instant := do
  let (year, rest) ← year text.toList
  let ((), rest) ← separator '-' rest
  let (month, rest) ← field 1 12 rest
  let ((), rest) ← separator '-' rest
  let (day, rest) ← field 1 31 rest
  let ((), rest) ← middle rest
  let (hour, rest) ← field 0 23 rest
  let ((), rest) ← separator ':' rest
  let (minute, rest) ← field 0 59 rest
  let ((), rest) ← separator ':' rest
  let (second, rest) ← field 0 60 rest
  let (nano, rest) ← fraction rest
  let (offset, rest) ← offset (Text.trimLeft rest)
  if !(Text.trimLeft rest).isEmpty then .error .trailing
  else assemble ⟨year, month, day⟩ hour minute second nano offset

end FileSearch

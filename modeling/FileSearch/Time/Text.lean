import FileSearch.Time.Date
import FileSearch.Time.Instant

set_option autoImplicit false

namespace FileSearch

def paddedDigits (width : Nat) (n : Nat) : List Char :=
  let digits := Nat.toDigits 10 n
  List.replicate (width - digits.length) '0' ++ digits

namespace Instant

def date (moment : Instant) : Date :=
  Date.ofDays (moment.second / 86400)

def secondOfDay (moment : Instant) : Nat :=
  (moment.second % 86400).toNat

def subsecond (moment : Instant) : Nat :=
  moment.nano % 1000000000

-- The number of the second in its minute, which is one more in a leap second.
def secondOfMinute (moment : Instant) : Nat :=
  moment.secondOfDay % 60 + moment.nano / 1000000000

def yearText (year : Int) : List Char :=
  if 0 ≤ year ∧ year ≤ 9999 then paddedDigits 4 year.toNat
  else (if year < 0 then '-' else '+') :: paddedDigits 4 year.natAbs

def secondText (moment : Instant) : List Char :=
  let date := moment.date
  let ofDay := moment.secondOfDay
  yearText date.year ++ '-' :: paddedDigits 2 date.month ++ '-' :: paddedDigits 2 date.day ++
    'T' :: paddedDigits 2 (ofDay / 3600) ++ ':' :: paddedDigits 2 (ofDay / 60 % 60) ++
    ':' :: paddedDigits 2 moment.secondOfMinute

-- A point and 3, 6 or 9 digits, the fewest that are exact; nothing for a whole second.
def fractionText (nano : Nat) : List Char :=
  if nano = 0 then []
  else if nano % 1000000 = 0 then '.' :: paddedDigits 3 (nano / 1000000)
  else if nano % 1000 = 0 then '.' :: paddedDigits 6 (nano / 1000)
  else '.' :: paddedDigits 9 nano

def text (moment : Instant) : String :=
  String.ofList (moment.secondText ++ fractionText moment.subsecond ++ ['Z'])

def wholeText (moment : Instant) : String :=
  String.ofList (moment.secondText ++ ['Z'])

end Instant

end FileSearch

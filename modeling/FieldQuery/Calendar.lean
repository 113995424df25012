/-
This file defines calendar dates, their text, and the forms in which they are read.
-/
import FieldQuery.Number.Digits
import FieldQuery.Text.CharacterSet

namespace FieldQuery

open Number

/-- A year is a leap year when four divides it, except for centuries that four hundred misses. -/
def isLeapYear (year : Int) : Bool :=
  year % 4 == 0 && (year % 100 != 0 || year % 400 == 0)

/-- This function gives the number of days of a month; there are none outside the twelve months. -/
def daysInMonth (year : Int) (month : Nat) : Nat :=
  match month with
  | 1 | 3 | 5 | 7 | 8 | 10 | 12 => 31
  | 4 | 6 | 9 | 11 => 30
  | 2 => if isLeapYear year then 29 else 28
  | _ => 0

/-- A date lies within the range of years, and its month has its day. -/
def isCalendarDate (year : Int) (month day : Nat) : Bool :=
  decide (-262143 ≤ year) && decide (year ≤ 262142) && decide (1 ≤ day) &&
    decide (day ≤ daysInMonth year month)

/-- This structure contains a date of the Gregorian calendar, extended to all years. -/
structure Date where
  year : Int
  month : Nat
  day : Nat
  valid : isCalendarDate year month day = true
deriving DecidableEq

namespace Date

/-- Three numbers make up a date when the calendar has it. -/
def ofParts? (year : Int) (month day : Nat) : Option Date :=
  if valid : isCalendarDate year month day = true then some ⟨year, month, day, valid⟩ else none

/-- A number is written with zeros in front up to a given width. -/
def padded (width value : Nat) : List Char :=
  let digits := Nat.toDigits 10 value
  List.replicate (width - digits.length) '0' ++ digits

/-- A year outside the four-digit range is written with its sign. -/
def yearChars (year : Int) : List Char :=
  if 0 ≤ year ∧ year ≤ 9999 then padded 4 year.natAbs
  else (if year < 0 then '-' else '+') :: padded 4 year.natAbs

/-- The parts of a date are separated by hyphens. -/
def chars (date : Date) : List Char :=
  yearChars date.year ++ '-' :: (padded 2 date.month ++ '-' :: padded 2 date.day)

def text (date : Date) : String :=
  String.ofList date.chars

/-- Blank characters may stand before a part of a date. -/
def skipBlank (characters : List Char) : List Char :=
  characters.dropWhile Text.isBlank

/-- A number has at least one digit and at most a given count of them. -/
def readNumber? (longest : Nat) (characters : List Char) : Option (Nat × List Char) :=
  let run := digitRun (skipBlank characters)
  if 1 ≤ run.digits.length ∧ run.digits.length ≤ longest then
    some (Digit.value 0 run.digits, run.rest)
  else none

/-- A year without a sign has at most four digits, and a year with one has any number. -/
def readYear? (characters : List Char) : Option (Int × List Char) :=
  let start := skipBlank characters
  let (negative, digits) := signed start
  if digits.length = start.length then
    (readNumber? 4 start).map fun (value, rest) => (value, rest)
  else
    let run := digitRun digits
    if run.digits.isEmpty then none
    else
      let value : Int := Digit.value 0 run.digits
      some (if negative then -value else value, run.rest)

/-- A hyphen may follow blank characters. -/
def readHyphen? (characters : List Char) : Option (List Char) :=
  match skipBlank characters with
  | '-' :: rest => some rest
  | _ => none

/-- A date is read from its year, month and day; only blank characters may follow. -/
def ofText? (text : String) : Option Date := do
  let (year, afterYear) ← readYear? text.toList
  let beforeMonth ← readHyphen? afterYear
  let (month, afterMonth) ← readNumber? 2 beforeMonth
  let beforeDay ← readHyphen? afterMonth
  let (day, rest) ← readNumber? 2 beforeDay
  if (skipBlank rest).isEmpty then ofParts? year month day else none

end Date

end FieldQuery

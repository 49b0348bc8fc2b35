/-!
# Calendar dates and times of day

Dates and timestamps are values to be stored and shown; nothing is computed with
them.  Years from 0 to 9999 have four digits, all others carry a sign as well.  A
leap second is kept as second 59 with a thousand million nanoseconds or more.
-/

namespace EntitySql

/-- A day of the proleptic Gregorian calendar. -/
structure Date where
  year : Int
  month : Nat
  day : Nat
  deriving DecidableEq

/-- A day and a time of day. -/
structure Timestamp where
  date : Date
  hour : Nat
  minute : Nat
  second : Nat
  nanosecond : Nat
  deriving DecidableEq

/-- Decimal digits, filled up with zeros from the left. -/
def zeroPadded (width n : Nat) : String :=
  let digits := Nat.toDigits 10 n
  String.ofList (List.replicate (width - digits.length) '0' ++ digits)

/-- A year with at least four digits, and a sign unless four digits suffice. -/
def yearText (year : Int) : String :=
  let sign := if year < 0 then "-" else if 9999 < year then "+" else ""
  sign ++ zeroPadded 4 year.natAbs

/-- Year, month and day. -/
def Date.text (date : Date) : String :=
  yearText date.year ++ "-" ++ zeroPadded 2 date.month ++ "-" ++ zeroPadded 2 date.day

/-- A fraction of a second in thousandths, millionths or thousand-millionths,
whichever is the coarsest that is exact; nothing for a whole second. -/
def fractionText (nanosecond : Nat) : String :=
  if nanosecond = 0 then ""
  else if nanosecond % 1000000 = 0 then "." ++ zeroPadded 3 (nanosecond / 1000000)
  else if nanosecond % 1000 = 0 then "." ++ zeroPadded 6 (nanosecond / 1000)
  else "." ++ zeroPadded 9 nanosecond

/-- Time of day, with the seconds of a leap second counted up to 60. -/
def Timestamp.timeText (time : Timestamp) : String :=
  let leap := 1000000000 ≤ time.nanosecond
  let second := if leap then time.second + 1 else time.second
  let nanosecond := if leap then time.nanosecond - 1000000000 else time.nanosecond
  zeroPadded 2 time.hour ++ ":" ++ zeroPadded 2 time.minute ++ ":" ++ zeroPadded 2 second
    ++ fractionText nanosecond

/-- Date and time with the given text between them. -/
def Timestamp.text (separator : String) (time : Timestamp) : String :=
  time.date.text ++ separator ++ time.timeText

end EntitySql

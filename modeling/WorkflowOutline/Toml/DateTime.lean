/-!
# Dates and times

A `DateTime` is a full date with an optional time and an optional offset, or a time alone. Its
canonical text separates date and time by `T`, writes the zero offset `Z` in upper case, and drops
trailing zeros of the fraction. How far hours and offsets reach is up to `ClockLimits`.
-/

namespace WorkflowOutline.Toml

/-- A day of the calendar. -/
structure Date where
  year : Nat
  month : Nat
  day : Nat
deriving DecidableEq, Repr

/-- A time of day; the second may be a leap second. -/
structure Time where
  hour : Nat
  minute : Nat
  second : Nat
  nanosecond : Nat
deriving DecidableEq, Repr

/-- The distance of a local time from universal time. -/
inductive Offset where
  | zulu
  | minutes (east : Int)
deriving DecidableEq, Repr

/-- The four forms of dates and times. -/
inductive DateTime where
  | date (d : Date)
  | time (t : Time)
  | unzoned (d : Date) (t : Time)
  | zoned (d : Date) (t : Time) (o : Offset)
deriving DecidableEq, Repr

/-- Whether a year has a 29th of February. -/
def isLeapYear (year : Nat) : Bool := year % 4 == 0 && (year % 100 != 0 || year % 400 == 0)

/-- The number of days of a month. -/
def daysInMonth (year month : Nat) : Nat :=
  if month = 2 then (if isLeapYear year then 29 else 28)
  else if month = 4 ∨ month = 6 ∨ month = 9 ∨ month = 11 then 30
  else 31

/-- Whether the calendar has the day. -/
def Date.isValid (d : Date) : Bool :=
  1 ≤ d.month && d.month ≤ 12 && 1 ≤ d.day && d.day ≤ daysInMonth d.year d.month

/-- The greatest hour of a time, the greatest number of minutes beside the hours of an offset, and
the greatest offset as a whole, in minutes. -/
structure ClockLimits where
  hour : Nat
  offsetMinute : Nat
  offset : Nat

namespace ClockLimits

/-- The limits of a date or time that stands for itself: hours and minutes of a clock. -/
def bare : ClockLimits := ⟨23, 59, 1439⟩

/-- The limits of a date or time inside a string, which may also be a whole day ahead. -/
def quoted : ClockLimits := ⟨24, 99, 1440⟩

end ClockLimits

/-- Whether a time of day keeps the limits. -/
def Time.isValid (limits : ClockLimits) (t : Time) : Bool :=
  t.hour ≤ limits.hour && t.minute ≤ 59 && t.second ≤ 60

/-- A number with zeros in front up to a width. -/
def padded (width n : Nat) : String :=
  let digits := Nat.toDigits 10 n
  String.ofList (List.replicate (width - digits.length) '0' ++ digits)

/-- Year, month and day with dashes. -/
def Date.text (d : Date) : String :=
  padded 4 d.year ++ "-" ++ padded 2 d.month ++ "-" ++ padded 2 d.day

/-- Hour, minute and second with colons, and the fraction without trailing zeros. -/
def Time.text (t : Time) : String :=
  padded 2 t.hour ++ ":" ++ padded 2 t.minute ++ ":" ++ padded 2 t.second ++
    (if t.nanosecond = 0 then ""
     else
      let digits := (padded 9 t.nanosecond).toList.reverse.dropWhile (· == '0')
      "." ++ String.ofList digits.reverse)

/-- `Z`, or a sign with hours and minutes. -/
def Offset.text : Offset → String
  | zulu => "Z"
  | minutes east =>
      (if east < 0 then "-" else "+") ++ padded 2 (east.natAbs / 60) ++ ":"
        ++ padded 2 (east.natAbs % 60)

/-- The canonical text. -/
def DateTime.text : DateTime → String
  | date d => d.text
  | time t => t.text
  | unzoned d t => d.text ++ "T" ++ t.text
  | zoned d t o => d.text ++ "T" ++ t.text ++ o.text

/-- The key of the table of one entry that stands for the date or time in the entry. -/
def DateTime.key : String := "$__toml_private_datetime"

end WorkflowOutline.Toml

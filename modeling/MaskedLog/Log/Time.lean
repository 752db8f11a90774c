import MaskedLog.Failure

/-!
# Record times

A record's creation time is a number of seconds since 1970-01-01 00:00 UTC, an
integer or a double. It is shown three ways, all in UTC:

* an ISO date and time, `2023-11-14T22:13:20.250000`: the fraction is rounded
  to microseconds (the fraction times a million, as a double, rounded half to
  even) and left out when it is zero;
* a console stamp, `2023-11-14 22:13:20,250`: the whole seconds rounded down,
  and the milliseconds of the fraction cut toward zero;
* the number itself, or its whole part.

The first two read the seconds on the system clock and calendar: seconds
outside 64 bits overflow, and a year that does not fit 32 bits after taking
1900 off is a fault of the calendar.

## Main definitions

* `civilOfDays` — the date of a day number.
* `isoTimestamp`, `consoleTimestamp`, `wholeSeconds`.

## References

`bodylog/log/formatters.py` (`JSONFormatter._format_timestamp`,
`ConsoleFormatter`), with Python's `datetime` and `logging.Formatter.formatTime`.
-/

namespace MaskedLog.Log

/-- The year, month and day of a count of days since 1970-01-01. -/
def civilOfDays (z : Int) : Int × Nat × Nat :=
  let z := z + 719468
  let era := (if z ≥ 0 then z else z - 146096) / 146097
  let doe := z - era * 146097
  let yoe := (doe - doe / 1460 + doe / 36524 - doe / 146096) / 365
  let y := yoe + era * 400
  let doy := doe - (365 * yoe + yoe / 4 - yoe / 100)
  let mp := (5 * doy + 2) / 153
  let d := doy - (153 * mp + 2) / 5 + 1
  let m := if mp < 10 then mp + 3 else mp - 9
  ((if m ≤ 2 then y + 1 else y), m.toNat, d.toNat)

/-- A number with at least `n` digits. -/
def padded (n : Nat) (k : Nat) : String :=
  let ds := toString k
  String.ofList (List.replicate (n - ds.length) '0') ++ ds

/-- The date and clock time of whole seconds since the epoch. -/
def dateTimeOf (secs : Int) : (Int × Nat × Nat) × Nat × Nat × Nat :=
  let days := secs / 86400
  let rest := (secs % 86400).toNat
  (civilOfDays days, rest / 3600, rest % 3600 / 60, rest % 60)

/-- The whole part (toward zero) and the fraction of a double, exactly. -/
def splitWhole (x : Binary64) : Option (Int × Int × Nat) := do
  let (num, den) ← x.toRat?
  let whole := num.tdiv den
  return (whole, num - whole * den, den)

/-- The fraction of a double times `k`, rounded to a double and then to an
integer half to even; with the whole part. -/
def fractionUnits (x : Binary64) (k : Nat) : Option (Int × Int) := do
  let (whole, fnum, fden) ← splitWhole x
  let y := Binary64.nearest (fnum < 0) (fnum.natAbs * k) fden
  let (ynum, yden) ← y.toRat?
  let r : Int := Binary64.roundHalfEven ynum.natAbs yden
  return (whole, if ynum < 0 then -r else r)

/-- The error for a time that is not a finite number. -/
def badTime (x : Binary64) : Failure :=
  if x.isNaN then .badValue "Invalid value NaN (not a number)"
  else .overflow

/-- Whole seconds and microseconds of a creation time, the microseconds in
`[0, 10^6)`. -/
def microsOf (created : Value) : Except Failure (Int × Nat) :=
  match created with
  | .int n => .ok (n, 0)
  | .bool b => .ok (if b then 1 else 0, 0)
  | .float x =>
    match fractionUnits x 1000000 with
    | some (s, us) =>
      if us ≥ 1000000 then .ok (s + 1, (us - 1000000).toNat)
      else if us < 0 then .ok (s - 1, (us + 1000000).toNat)
      else .ok (s, us.toNat)
    | none => .error (badTime x)
  | _ => .error .wrongType

/-- The bound of the system clock: whole seconds must lie in `[-2^63, 2^63)`. -/
def clockBound : Int := Int.ofNat (Nat.pow 2 63)

/-- Whether whole seconds fit the system clock. -/
def fitsClock (secs : Int) : Bool := -clockBound ≤ secs && secs < clockBound

/-- Whether the system calendar holds the year of whole seconds: the year less
1900 must fit in 32 signed bits. -/
def calendarHolds (secs : Int) : Bool :=
  let ((y, _, _), _) := dateTimeOf secs
  y - 1900 + 2147483648 ≥ 0 && y - 1900 ≤ 2147483647

/-- Whole seconds the system clock and calendar can take: past the clock an
overflow, past the calendar's years a fault of its own. -/
def checkClock (secs : Int) : Except Failure Unit := do
  if !fitsClock secs then throw .overflow
  if !calendarHolds secs then throw .yearOverflow

/-- The error for a year outside `1 … 9999`. -/
def yearRange (y : Int) : Failure := .badValue ("year " ++ toString y ++ " is out of range")

/-- The ISO date and time of a creation time. Its year must lie in
`1 … 9999`, and so must the year a day earlier (the local time is checked
against the day before for a fold). -/
def isoTimestamp (created : Value) : Except Failure String := do
  let (secs, us) ← microsOf created
  checkClock secs
  let ((y, mo, d), h, mi, s) := dateTimeOf secs
  if y < 1 || y > 9999 then throw (yearRange y)
  let ((y0, _, _), _) := dateTimeOf (secs - 86400)
  if y0 < 1 then throw (yearRange y0)
  return padded 4 y.toNat ++ "-" ++ padded 2 mo ++ "-" ++ padded 2 d ++ "T" ++ padded 2 h ++ ":" ++
    padded 2 mi ++ ":" ++ padded 2 s ++ (if us = 0 then "" else "." ++ padded 6 us)

/-- The whole part of a creation time, toward zero. -/
def wholeSeconds (created : Value) : Except Failure Int :=
  match created with
  | .int n => .ok n
  | .bool b => .ok (if b then 1 else 0)
  | .float x =>
    match x.truncate with
    | some n => .ok n
    | none => .error (badTime x)
  | _ => .error .wrongType

/-- The milliseconds of a creation time: the fraction times a thousand, as a
double, cut toward zero. -/
def millisOf (created : Value) : Except Failure Int :=
  match created with
  | .float x =>
    match splitWhole x with
    | some (_, fnum, fden) =>
      let y := Binary64.nearest (fnum < 0) (fnum.natAbs * 1000) fden
      match y.truncate with
      | some n => .ok n
      | none => .ok 0
    | none => .error (badTime x)
  | _ => .ok 0

/-- The console stamp of a creation time: date and time of the whole seconds
(rounded down), a comma and the milliseconds in three digits. -/
def consoleTimestamp (created : Value) : Except Failure String := do
  let secs ← match created with
    | .float x =>
      match splitWhole x with
      | some (w, fnum, _) => pure (if fnum < 0 then w - 1 else w)
      | none => throw (badTime x)
    | v => wholeSeconds v
  checkClock secs
  let ms ← millisOf created
  let ((y, mo, d), h, mi, s) := dateTimeOf secs
  let year := if y < 0 then "-" ++ toString y.natAbs else toString y
  let msText := if ms < 0 then "-" ++ padded 2 ms.natAbs else padded 3 ms.toNat
  return year ++ "-" ++ padded 2 mo ++ "-" ++ padded 2 d ++ " " ++ padded 2 h ++ ":" ++
    padded 2 mi ++ ":" ++ padded 2 s ++ "," ++ msText

end MaskedLog.Log

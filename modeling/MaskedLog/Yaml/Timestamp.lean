import MaskedLog.Value.Basic
import MaskedLog.Failure
import MaskedLog.Yaml.Tag
/-!
# Dates and times in YAML

A scalar tagged as a timestamp is a date `2001-12-14` (month and day may have
one digit) or a date and a time `2001-12-14 21:59:43.10 -5`: the time after a
`T`, a `t` or blanks, with an optional fraction of a second (its first six
digits are the microseconds) and an optional zone, `Z` or a signed offset in
hours and optionally minutes.

Fields are checked as a calendar checks them (year 1 to 9999, a real day of
the month, a time of day, an offset under a day); a value out of range is a
`badValue` failure, and text of another shape is a `noAttribute` failure (the
pattern found nothing to read fields from). The value is a date or a date and
time, shown as ISO text (`2001-12-14 21:59:43.100000-05:00`) and written out
as its constructor call (`datetime.date(2001, 12, 14)`).

* `readStamp` — the fields of a timestamp text, in the pattern's order of preference.
* `timestampValue` — the value of a timestamp scalar.
* `datetimeKey` — what makes two dates and times equal as keys.

## References

`SafeConstructor.construct_yaml_timestamp` of PyYAML.
-/

namespace MaskedLog.Yaml

/-- The zone of a time: UTC, or a signed offset in hours and optional minutes. -/
inductive ZoneText where
  | utc
  | offset (negative : Bool) (hours : List Char) (minutes : Option (List Char))

/-- The fields of a timestamp text, as written. -/
structure StampText where
  year : List Char
  month : List Char
  day : List Char
  /-- Hour, minute, second, fraction and zone, when a time is written. -/
  time : Option (List Char × List Char × List Char × Option (List Char) × Option ZoneText)

/-- One or two digits, two first, with the rest. -/
def digitChoices (s : List Char) : List (List Char × List Char) :=
  match s with
  | a :: b :: rest =>
    if isDecimal a then (if isDecimal b then [([a, b], rest)] else []) ++ [([a], b :: rest)] else []
  | [a] => if isDecimal a then [([a], [])] else []
  | [] => []

/-- Exactly two digits, with the rest. -/
def twoDigits : List Char → Option (List Char × List Char)
  | a :: b :: rest => if isDecimal a && isDecimal b then some ([a, b], rest) else none
  | _ => none

/-- The ways a run of blanks (at least `least` of them) can be taken, longest first. -/
def blankChoices (least : Nat) (s : List Char) : List (List Char) :=
  let n := (s.takeWhile fun c => c = ' ' || c = '\t').length
  ((List.range (n + 1)).reverse.filter (· ≥ least)).map fun k => s.drop k

/-- Whether the rest ends the text: nothing, or one final line break. -/
def endsText (s : List Char) : Bool := s.isEmpty || s == ['\n']

/-- The zone choices of a time's tail, each with the rest, preferred first. -/
def zoneChoices (s : List Char) : List (Option ZoneText × List Char) :=
  let withZone := (blankChoices 0 s).flatMap fun r =>
    match r with
    | 'Z' :: rest => [(some ZoneText.utc, rest)]
    | c :: rest =>
      if c = '-' || c = '+' then
        (digitChoices rest).flatMap fun (h, r) =>
          let withMinutes := match r with
            | ':' :: more => match twoDigits more with
              | some (m, rest) => [(some (ZoneText.offset (c = '-') h (some m)), rest)]
              | none => []
            | _ => []
          withMinutes ++ [(some (ZoneText.offset (c = '-') h none), r)]
      else []
    | [] => []
  withZone ++ [(none, s)]

/-- The fraction choices after the seconds, each with the rest, preferred first. -/
def fractionChoices (s : List Char) : List (Option (List Char) × List Char) :=
  match s with
  | '.' :: more =>
    let n := (more.takeWhile isDecimal).length
    ((List.range (n + 1)).reverse.map fun k => (some (more.take k), more.drop k)) ++ [(none, s)]
  | _ => [(none, s)]

/-- The fields of a timestamp text, taking the first reading in the pattern's
order of preference that uses the whole text. -/
def readStamp (text : String) : Option StampText := do
  let s := text.toList
  let year := s.take 4
  if !(year.length = 4 && year.all isDecimal) then none
  let rest := s.drop 4
  let readings : List StampText :=
    match rest with
    | '-' :: r =>
      (digitChoices r).flatMap fun (month, r) =>
        match r with
        | '-' :: r =>
          (digitChoices r).flatMap fun (day, r) =>
            let timed : List StampText :=
              let afterSep : List (List Char) :=
                match r with
                | c :: more => if c = 'T' || c = 't' then [more] else blankChoices 1 r
                | [] => []
              afterSep.flatMap fun r =>
                (digitChoices r).flatMap fun (hour, r) =>
                  match r with
                  | ':' :: r =>
                    match twoDigits r with
                    | some (minute, ':' :: r) =>
                      match twoDigits r with
                      | some (second, r) =>
                        (fractionChoices r).flatMap fun (fraction, r) =>
                          ((zoneChoices r).filter fun (_, rest) => endsText rest).map fun (zone, _) =>
                            ⟨year, month, day, some (hour, minute, second, fraction, zone)⟩
                      | none => []
                    | _ => []
                  | _ => []
            timed ++ (if endsText r then [⟨year, month, day, none⟩] else [])
        | _ => []
    | _ => []
  readings.head?

/-- The value of ASCII digits. -/
def digitsNat (ds : List Char) : Nat := ds.foldl (fun n c => 10 * n + (c.toNat - 48)) 0

/-- Whether a year is a leap year. -/
def isLeap (y : Nat) : Bool := y % 4 == 0 && (y % 100 != 0 || y % 400 == 0)

/-- The number of days of a month. -/
def monthDays (y m : Nat) : Nat :=
  if m = 2 then (if isLeap y then 29 else 28)
  else if m = 4 || m = 6 || m = 9 || m = 11 then 30 else 31

/-- A number with at least `n` digits. -/
def withZeros (n k : Nat) : String :=
  let ds := toString k
  String.ofList (List.replicate (n - ds.length) '0') ++ ds

/-- The constructor call of a zone offset given in minutes. -/
def zoneRepr (minutes : Int) : String :=
  if minutes = 0 then "datetime.timezone.utc"
  else
    let secs := minutes * 60
    let days := secs / 86400
    let rest := secs - days * 86400
    let fields := (if days != 0 then [s!"days={days}"] else []) ++
      (if rest != 0 then [s!"seconds={rest}"] else [])
    "datetime.timezone(datetime.timedelta(" ++ ", ".intercalate fields ++ "))"

/-- The ISO text of a zone offset given in minutes. -/
def zoneText (minutes : Int) : String :=
  let sign := if minutes < 0 then "-" else "+"
  let m := minutes.natAbs
  sign ++ withZeros 2 (m / 60) ++ ":" ++ withZeros 2 (m % 60)

/-- The value of a timestamp scalar. -/
def timestampValue (text : String) : Except Failure Value := do
  let some st := readStamp text | throw .noAttribute
  let year := digitsNat st.year
  let month := digitsNat st.month
  let day := digitsNat st.day
  let date := withZeros 4 year ++ "-" ++ withZeros 2 month ++ "-" ++ withZeros 2 day
  let checkDate : Except Failure Unit := do
    if year < 1 || year > 9999 then throw (.badValue s!"year {year} is out of range")
    if month < 1 || month > 12 then throw (.badValue "month must be in 1..12")
    if day < 1 || day > monthDays year month then throw (.badValue "day is out of range for month")
  match st.time with
  | none =>
    checkDate
    return .foreign "date" date s!"datetime.date({year}, {month}, {day})" true
  | some (h, mi, sec, fraction, zone) =>
    let hour := digitsNat h
    let minute := digitsNat mi
    let second := digitsNat sec
    let micro := match fraction with
      | some f => if f.isEmpty then 0 else digitsNat ((f.take 6) ++ List.replicate (6 - f.length) '0')
      | none => 0
    let offset : Option Int ← match zone with
      | some (.offset negative hs ms) =>
        let total : Int := 60 * digitsNat hs + (ms.map digitsNat).getD 0
        if total ≥ 1440 then
          throw (.badValue "offset must be less than a day")
        pure (some (if negative then -total else total))
      | some .utc => pure (some 0)
      | none => pure none
    checkDate
    if hour > 23 then throw (.badValue "hour must be in 0..23")
    if minute > 59 then throw (.badValue "minute must be in 0..59")
    if second > 59 then throw (.badValue "second must be in 0..59")
    let clock := withZeros 2 hour ++ ":" ++ withZeros 2 minute ++ ":" ++ withZeros 2 second ++
      (if micro != 0 then "." ++ withZeros 6 micro else "")
    let shown := date ++ " " ++ clock ++ (offset.map zoneText).getD ""
    let fields := [year, month, day, hour, minute] ++
      (if micro != 0 then [second, micro] else if second != 0 then [second] else [])
    let zonePart := (offset.map fun m => ", tzinfo=" ++ zoneRepr m).getD ""
    let quoted := "datetime.datetime(" ++ ", ".intercalate (fields.map toString) ++ zonePart ++ ")"
    return .foreign "datetime" shown quoted true

/-- Days from 1970-01-01 to a date of the proleptic Gregorian calendar. -/
def daysFromCivil (y : Int) (m d : Nat) : Int :=
  let y := if m ≤ 2 then y - 1 else y
  let era := (if y ≥ 0 then y else y - 399) / 400
  let yoe := y - era * 400
  let mp : Int := if m > 2 then m - 3 else m + 9
  let doy := (153 * mp + 2) / 5 + d - 1
  let doe := yoe * 365 + yoe / 4 - yoe / 100 + doy
  era * 146097 + doe - 719468

/-- The identity of a date and time as a mapping key, read from its ISO text:
a time with a zone is the instant it names, in microseconds since the epoch
(so two zones naming one instant give one key); a time without a zone is its
text, which no zoned time shares. -/
def datetimeKey (shown : String) : String :=
  let cs := shown.toList
  let num (a b : Nat) : Nat := digitsNat ((cs.drop a).take (b - a))
  let rest := cs.drop 19
  let (micro, zone) := match rest with
    | '.' :: more => (num 20 26, more.drop 6)
    | _ => (0, rest)
  match zone with
  | sign :: h1 :: h2 :: ':' :: m1 :: m2 :: _ =>
    let off : Int := 60 * digitsNat [h1, h2] + digitsNat [m1, m2]
    let off := if sign = '-' then -off else off
    let days := daysFromCivil (num 0 4) (num 5 7) (num 8 10)
    let secs := ((days * 24 + num 11 13) * 60 + num 14 16 - off) * 60 + num 17 19
    "@" ++ toString (secs * 1000000 + micro)
  | _ => shown

end MaskedLog.Yaml

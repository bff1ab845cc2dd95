import FastapiTemplate.Python.Value

/-!
# Dates and durations

A `datetime` in UTC is the number of microseconds since the epoch, a `timedelta` a number of
microseconds. Python's `datetime` ends with the year 9999. The end matters where a date comes from
outside (`fromTimestamp`, `addChecked`); a sum whose first term is read off the clock is the plain
sum.
-/

namespace FastapiTemplate.Python

abbrev Datetime : Type := ℤ
abbrev Timedelta : Type := ℤ

/-- Microseconds in a second. -/
def second : Timedelta := 1000000

/-- `timedelta(minutes=n)` -/
def minutes (n : ℤ) : Timedelta := n * 60 * second

/-- `timedelta(days=n)` -/
def days (n : ℤ) : Timedelta := n * 24 * 60 * 60 * second

/-- `datetime.max` -/
def datetimeMax : Datetime := 253402300799999999

/-- `d + delta`, where the sum may leave the range of `datetime`. -/
def addChecked (d : Datetime) (delta : Timedelta) : Except BuiltinError Datetime :=
  if d + delta ≤ datetimeMax then .ok (d + delta) else .error .overflowError

/-- `datetime.fromtimestamp(float(x), tz=UTC)` of a positive number. -/
def fromTimestamp : Value.Positive → Except BuiltinError Datetime
  | .finite q =>
    if roundHalfEven (q * 1000000) ≤ datetimeMax then .ok (roundHalfEven (q * 1000000))
    else .error .valueError
  | .infinite => .error .overflowError

/-! ### `isoformat` -/

/-- Year, month and day of a day counted from the epoch. -/
def civil (day : ℤ) : ℤ × ℤ × ℤ :=
  let z := day + 719468
  let era := z / 146097
  let doe := z % 146097
  let yoe := (doe - doe / 1460 + doe / 36524 - doe / 146096) / 365
  let doy := doe - (365 * yoe + yoe / 4 - yoe / 100)
  let mp := (5 * doy + 2) / 153
  let month := if mp < 10 then mp + 3 else mp - 9
  (yoe + era * 400 + if month ≤ 2 then 1 else 0, month, doy - (153 * mp + 2) / 5 + 1)

/-- A number in at least `width` digits. -/
def padded (width : ℕ) (n : ℤ) : String :=
  let ds := (toString n).toList
  String.ofList (List.replicate (width - ds.length) '0' ++ ds)

/-- `d.isoformat()` in UTC; the microseconds are left out when they are zero. -/
def isoformat (d : Datetime) : String :=
  let (y, m, dd) := civil (d / days 1)
  let t := d % days 1
  let s := t / second
  let us := t % second
  padded 4 y ++ "-" ++ padded 2 m ++ "-" ++ padded 2 dd ++ "T" ++ padded 2 (s / 3600) ++ ":" ++
    padded 2 (s / 60 % 60) ++ ":" ++ padded 2 (s % 60) ++
    (if us = 0 then "" else "." ++ padded 6 us) ++ "+00:00"

example : isoformat 1787616000000001 = "2026-08-25T00:00:00.000001+00:00" := by decide +kernel

end FastapiTemplate.Python

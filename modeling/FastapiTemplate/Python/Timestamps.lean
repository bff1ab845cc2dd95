import FastapiTemplate.Python.Numerals
import FastapiTemplate.Python.Time
import Mathlib.Tactic.IntervalCases

/-!
# Dates as texts

`strftime` and `strptime` of dates in UTC, in the format `%Y-%m-%dT%H-%M-%S`. `strptime_strftime` says that a date of
four-digit year is read as it is written, without its microseconds.
-/

namespace FastapiTemplate.Python

/-! ### Dates -/

def isLeap (year : ℤ) : Bool := year % 4 = 0 && (year % 100 ≠ 0 || year % 400 = 0)

def daysInMonth (year month : ℤ) : ℤ :=
  if month = 2 then if isLeap year then 29 else 28
  else if month = 4 ∨ month = 6 ∨ month = 9 ∨ month = 11 then 30
  else 31

/-- The day of a date, counted from the epoch; years begin in March here. -/
def dayOf (year month day : ℤ) : ℤ :=
  let y := if month ≤ 2 then year - 1 else year
  let mp := if month ≤ 2 then month + 9 else month - 3
  let yoe := y % 400
  let doy := (153 * mp + 2) / 5 + day - 1
  y / 400 * 146097 + (365 * yoe + yoe / 4 - yoe / 100 + doy) - 719468

example : dayOf 1970 1 1 = 0 ∧ dayOf 2000 2 29 = 11016 ∧ dayOf 9999 12 31 = 2932896 := by decide

/-- `datetime(year, month, day, hour, minute, seconds, tzinfo=UTC)` -/
def datetime (year month day hour minute seconds : ℤ) : Except BuiltinError Datetime :=
  if (1 ≤ year ∧ year ≤ 9999) ∧ (1 ≤ month ∧ month ≤ 12) ∧ (1 ≤ day ∧ day ≤ daysInMonth year month) ∧
      (0 ≤ hour ∧ hour ≤ 23) ∧ (0 ≤ minute ∧ minute ≤ 59) ∧ 0 ≤ seconds ∧ seconds ≤ 59 then
    .ok (days (dayOf year month day) + (hour * 3600 + minute * 60 + seconds) * second)
  else .error .valueError

/-- `datetime.min` -/
def datetimeMin : Datetime := -62135596800000000

/-! ### `strftime` -/

/-- `d.strftime("%Y-%m-%dT%H-%M-%S")`; the year is not padded. -/
def strftime (d : Datetime) : String :=
  let (y, m, dd) := civil (d / days 1)
  let s := d % days 1 / second
  toString y ++ "-" ++ padded 2 m ++ "-" ++ padded 2 dd ++ "T" ++ padded 2 (s / 3600) ++ "-" ++ padded 2 (s / 60 % 60) ++
    "-" ++ padded 2 (s % 60)

/-! ### `strptime` -/

/-- `\d` -/
def isDecimal (c : Char) : Bool := (asciiDecimal c).isDigit

def decimalValue (c : Char) : ℤ := (asciiDecimal c).toNat - '0'.toNat

def oneOf (s : String) (c : Char) : Bool := s.toList.contains c

/-- A part of a format: a character that stands for itself, a year, or a number of two digits with the alternatives of
its regular expression. -/
inductive Directive where
  | literal (c : Char)
  | year
  | number (alternatives : List ((Char → Bool) × (Char → Bool)))

namespace Directive

/-- `%m`, and the others, where both digits are there. -/
def month : Directive := number [(oneOf "1", oneOf "012"), (oneOf "0", oneOf "123456789")]

def day : Directive := number [(oneOf "3", oneOf "01"), (oneOf "12", isDecimal), (oneOf "0", oneOf "123456789")]

def hour : Directive := number [(oneOf "2", oneOf "0123"), (oneOf "01", isDecimal)]

def minute : Directive := number [(oneOf "012345", isDecimal)]

def second : Directive := number [(oneOf "6", oneOf "01"), (oneOf "012345", isDecimal)]

end Directive

/-- `%Y-%m-%dT%H-%M-%S` -/
def stampFormat : List Directive :=
  [.year, .literal '-', .month, .literal '-', .day, .literal 'T', .hour, .literal '-', .minute, .literal '-', .second]

/-- The numbers in a text of a format. -/
def readFormat : List Directive → List Char → Option (List ℤ)
  | [], [] => some []
  | .literal c :: format, d :: text => if c = d then readFormat format text else none
  | .year :: format, a :: b :: c :: d :: text =>
    if isDecimal a && isDecimal b && isDecimal c && isDecimal d then
      (readFormat format text).map
        ((1000 * decimalValue a + 100 * decimalValue b + 10 * decimalValue c + decimalValue d) :: ·)
    else none
  | .number alternatives :: format, a :: b :: text =>
    if alternatives.any fun p => p.1 a && p.2 b then
      (readFormat format text).map ((10 * decimalValue a + decimalValue b) :: ·)
    else none
  | _, _ => none

/-- `datetime.strptime(text, "%Y-%m-%dT%H-%M-%S").replace(tzinfo=UTC)` of a text that has all digits of its numbers. -/
def strptime (text : List Char) : Except BuiltinError Datetime :=
  match readFormat stampFormat text with
  | some [y, m, d, h, mi, s] => datetime y m d h mi s
  | _ => .error .valueError

/-! ### Dates and their days -/

section Calendar

/-- A day in a cycle of 400 years: its year, and its day in the year. -/
lemma doy_bounds {doe yoe : ℤ} (h0 : 0 ≤ doe) (h1 : doe ≤ 146096)
    (hyoe : yoe = (doe - doe / 1460 + doe / 36524 - doe / 146096) / 365) :
    0 ≤ doe - (365 * yoe + yoe / 4 - yoe / 100) ∧ doe - (365 * yoe + yoe / 4 - yoe / 100) ≤ 365 ∧
      (doe - (365 * yoe + yoe / 4 - yoe / 100) = 365 →
        (yoe + 1) % 4 = 0 ∧ ((yoe + 1) % 100 ≠ 0 ∨ yoe = 399)) := by
  obtain ⟨a, ha⟩ : ∃ a, a = doe / 1460 := ⟨_, rfl⟩
  obtain ⟨b, hb⟩ : ∃ b, b = doe / 36524 := ⟨_, rfl⟩
  obtain ⟨c, hc⟩ : ∃ c, c = doe / 146096 := ⟨_, rfl⟩
  obtain ⟨p, hp⟩ : ∃ p, p = yoe / 4 := ⟨_, rfl⟩
  obtain ⟨q, hq⟩ : ∃ q, q = yoe / 100 := ⟨_, rfl⟩
  rw [← ha, ← hb, ← hc] at hyoe
  rw [← hp, ← hq]
  have hb' : b = 0 ∨ b = 1 ∨ b = 2 ∨ b = 3 ∨ b = 4 := by omega
  have hr : yoe = 4 * p ∨ yoe = 4 * p + 1 ∨ yoe = 4 * p + 2 ∨ yoe = 4 * p + 3 := by omega
  -- the last day of the cycle is in the fourth century, like those before it
  obtain ⟨rfl, rfl⟩ : c = b / 4 ∧ q = b - b / 4 := by
    rcases hb' with rfl | rfl | rfl | rfl | rfl <;> omega
  rcases hb' with rfl | rfl | rfl | rfl | rfl
  all_goals refine ⟨by omega, by omega, fun h => ?_⟩
  all_goals rcases hr with hr | hr | hr | hr <;> omega

/-- A month that begins the year in March, and its days. -/
lemma month_bounds {doy mp : ℤ} (h0 : 0 ≤ doy) (h1 : doy ≤ 365) (hmp : mp = (5 * doy + 2) / 153) :
    0 ≤ mp ∧ mp ≤ 11 ∧ (153 * mp + 2) / 5 ≤ doy := by
  omega

/-- **The date of a day**: it exists, and is that of the day. -/
lemma civil_spec {n y m d : ℤ} (h : civil n = (y, m, d)) :
    (1 ≤ m ∧ m ≤ 12) ∧ (1 ≤ d ∧ d ≤ daysInMonth y m) ∧ dayOf y m d = n := by
  unfold civil at h
  dsimp only at h
  obtain ⟨doe, hdoe⟩ : ∃ doe, doe = (n + 719468) % 146097 := ⟨_, rfl⟩
  obtain ⟨era, hera⟩ : ∃ era, era = (n + 719468) / 146097 := ⟨_, rfl⟩
  rw [← hdoe, ← hera] at h
  obtain ⟨yoe, hyoe⟩ : ∃ yoe, yoe = (doe - doe / 1460 + doe / 36524 - doe / 146096) / 365 := ⟨_, rfl⟩
  rw [← hyoe] at h
  obtain ⟨doy, hdoy⟩ : ∃ doy, doy = doe - (365 * yoe + yoe / 4 - yoe / 100) := ⟨_, rfl⟩
  rw [← hdoy] at h
  obtain ⟨mp, hmp⟩ : ∃ mp, mp = (5 * doy + 2) / 153 := ⟨_, rfl⟩
  rw [← hmp] at h
  have hrange : 0 ≤ doe ∧ doe ≤ 146096 := by omega
  obtain ⟨hdoy0, hdoy1, hleap⟩ := doy_bounds hrange.1 hrange.2 hyoe
  rw [← hdoy] at hdoy0 hdoy1 hleap
  have hyoe_bounds : 0 ≤ yoe ∧ yoe ≤ 399 := by omega
  obtain ⟨hmp0, hmp1, hle⟩ := month_bounds hdoy0 hdoy1 hmp
  clear hyoe
  obtain ⟨hy, hm, hd⟩ : yoe + era * 400 + (if (if mp < 10 then mp + 3 else mp - 9) ≤ 2 then 1 else 0) = y ∧
      (if mp < 10 then mp + 3 else mp - 9) = m ∧ doy - (153 * mp + 2) / 5 + 1 = d := by
    simpa only [Prod.mk.injEq] using h
  rw [hm] at hy
  -- the months from March on, and the two that belong to the year before
  obtain ⟨hyear, hmonth, hnumber⟩ : (if m ≤ 2 then y - 1 else y) = yoe + era * 400 ∧
      (if m ≤ 2 then m + 9 else m - 3) = mp ∧ 1 ≤ m ∧ m ≤ 12 := by
    split at hm <;> split at hy <;> omega
  refine ⟨hnumber, ⟨by omega, ?_⟩, ?_⟩
  · unfold daysInMonth
    by_cases hfebruary : m = 2
    · have heleven : mp = 11 := by
        rw [hfebruary] at hmonth
        exact hmonth.symm
      have hnext : y = yoe + 1 + era * 400 := by
        rw [if_pos (by omega)] at hyear
        omega
      rw [if_pos hfebruary]
      by_cases hlast : doy = 365
      · have hisLeap : isLeap y = true := by
          have hyear4 := (hleap hlast).1
          have hyear400 := (hleap hlast).2
          unfold isLeap
          simp only [Bool.and_eq_true, Bool.or_eq_true, decide_eq_true_eq]
          omega
        rw [if_pos hisLeap]
        omega
      · split <;> omega
    · rw [if_neg hfebruary]
      split
      · rename_i hshort
        rcases hshort with rfl | rfl | rfl | rfl
        all_goals
          rw [if_neg (by decide)] at hmonth
          subst hmonth
          omega
      · omega
  · have hyoe : (yoe + era * 400) % 400 = yoe := by omega
    have hera' : (yoe + era * 400) / 400 = era := by omega
    unfold dayOf
    rw [hyear, hmonth]
    dsimp only
    rw [hyoe, hera']
    omega

end Calendar

/-! ### What is written is read -/

section RoundTrip

/-- The two digits of a number. -/
def twoDigits (n : ℕ) : List Char := [Nat.digitChar (n / 10), Nat.digitChar (n % 10)]

lemma toList_padded {n : ℕ} (h : n < 100) : (padded 2 n).toList = twoDigits n := by
  have hall : ((List.range 100).all fun n => (padded 2 n).toList == twoDigits n) = true := by decide +kernel
  exact beq_iff_eq.1 (List.all_eq_true.1 hall n (List.mem_range.2 h))

/-- A year of four digits. -/
lemma toList_year {y : ℕ} (h0 : 1000 ≤ y) (h1 : y ≤ 9999) :
    (toString (y : ℤ)).toList = twoDigits (y / 100) ++ twoDigits (y % 100) := by
  have hdigits : ∀ {n d : ℕ}, 0 < n → d < 10 →
      Nat.toDigits 10 (10 * n + d) = Nat.toDigits 10 n ++ [Nat.digitChar d] := by
    intro n d hn hd
    rw [← Nat.toDigits_append_toDigits (by decide) hn hd, Nat.toDigits_of_lt_base hd]
  have hlist : (toString (y : ℤ)).toList = Nat.toDigits 10 y := Nat.toList_repr
  have hy : y = 10 * (10 * (10 * (y / 1000) + y / 100 % 10) + y % 100 / 10) + y % 100 % 10 := by omega
  rw [hlist]
  conv_lhs => rw [hy]
  rw [hdigits (by omega) (by omega), hdigits (by omega) (by omega), hdigits (by omega) (by omega),
    Nat.toDigits_of_lt_base (by omega)]
  have hthousands : y / 1000 = y / 100 / 10 := by omega
  rw [hthousands]
  rfl

@[simp] lemma length_twoDigits (n : ℕ) : (twoDigits n).length = 2 := rfl

lemma digitChar_spec {n : ℕ} (h : n < 10) :
    isDecimal (Nat.digitChar n) = true ∧ decimalValue (Nat.digitChar n) = n := by
  have hall : ((List.range 10).all fun n =>
      isDecimal (Nat.digitChar n) && decimalValue (Nat.digitChar n) == (n : ℤ)) = true := by decide +kernel
  simpa using List.all_eq_true.1 hall n (List.mem_range.2 h)

/-- The directive reads the two digits of a number. -/
def Directive.reads : Directive → ℕ → Bool
  | .number alternatives, n => alternatives.any fun p => p.1 (Nat.digitChar (n / 10)) && p.2 (Nat.digitChar (n % 10))
  | _, _ => false

variable {n m y : ℕ} {directive : Directive} {format : List Directive} {text : List Char}

lemma readFormat_number (hn : n < 100) (h : directive.reads n = true) :
    readFormat (directive :: format) (twoDigits n ++ text) = (readFormat format text).map ((n : ℤ) :: ·) := by
  cases directive with
  | literal c => cases h
  | year => cases h
  | number alternatives =>
    have htens := (digitChar_spec (n := n / 10) (by omega)).2
    have hones := (digitChar_spec (n := n % 10) (by omega)).2
    have hvalue : 10 * decimalValue (Nat.digitChar (n / 10)) + decimalValue (Nat.digitChar (n % 10)) = n := by
      rw [htens, hones]
      omega
    unfold twoDigits
    rw [List.cons_append, List.cons_append, List.nil_append, readFormat, hvalue]
    exact if_pos h

lemma readFormat_year (hy : y < 10000) :
    readFormat (.year :: format) (twoDigits (y / 100) ++ (twoDigits (y % 100) ++ text)) =
      (readFormat format text).map ((y : ℤ) :: ·) := by
  obtain ⟨ha, ha'⟩ := digitChar_spec (n := y / 100 / 10) (by omega)
  obtain ⟨hb, hb'⟩ := digitChar_spec (n := y / 100 % 10) (by omega)
  obtain ⟨hc, hc'⟩ := digitChar_spec (n := y % 100 / 10) (by omega)
  obtain ⟨hd, hd'⟩ := digitChar_spec (n := y % 100 % 10) (by omega)
  have hvalue : 1000 * decimalValue (Nat.digitChar (y / 100 / 10)) + 100 * decimalValue (Nat.digitChar (y / 100 % 10)) +
      10 * decimalValue (Nat.digitChar (y % 100 / 10)) + decimalValue (Nat.digitChar (y % 100 % 10)) = y := by
    rw [ha', hb', hc', hd']
    omega
  unfold twoDigits
  simp only [List.cons_append, List.nil_append]
  rw [readFormat, ha, hb, hc, hd, hvalue]
  rfl

lemma readFormat_literal (c : Char) : readFormat (.literal c :: format) (c :: text) = readFormat format text := by
  rw [readFormat, if_pos rfl]

/-- A text of the format. -/
def stamp (y m d h mi s : ℕ) : List Char :=
  twoDigits (y / 100) ++ (twoDigits (y % 100) ++ '-' :: (twoDigits m ++ '-' :: (twoDigits d ++ 'T' ::
    (twoDigits h ++ '-' :: (twoDigits mi ++ '-' :: twoDigits s)))))

/-- Every number that a date can have has an alternative. -/
lemma readFormat_stamp {d h mi s : ℕ} (hy : y < 10000) (hm : 1 ≤ m ∧ m ≤ 12) (hd : 1 ≤ d ∧ d ≤ 31) (hh : h ≤ 23)
    (hmi : mi ≤ 59) (hs : s ≤ 59) :
    readFormat stampFormat (stamp y m d h mi s) = some [(y : ℤ), m, d, h, mi, s] := by
  have hreads : ∀ {directive : Directive} {n : ℕ} (low high : ℕ),
      ((List.range (high + 1)).all fun n => n < low || directive.reads n) = true → low ≤ n → n ≤ high →
        directive.reads n = true := by
    intro directive n low high hall hlow hhigh
    have hn := List.all_eq_true.1 hall n (List.mem_range.2 (by omega))
    simpa [show ¬n < low by omega] using hn
  have hmonth : Directive.month.reads m = true := hreads 1 12 (by decide +kernel) hm.1 hm.2
  have hday : Directive.day.reads d = true := hreads 1 31 (by decide +kernel) hd.1 hd.2
  have hhour : Directive.hour.reads h = true := hreads 0 23 (by decide +kernel) (Nat.zero_le h) hh
  have hminute : Directive.minute.reads mi = true :=
    hreads 0 59 (by decide +kernel) (Nat.zero_le mi) hmi
  have hsecond : Directive.second.reads s = true :=
    hreads 0 59 (by decide +kernel) (Nat.zero_le s) hs
  have hend : readFormat [Directive.second] (twoDigits s) = some [(s : ℤ)] := by
    rw [← List.append_nil (twoDigits s), readFormat_number (by omega) hsecond]
    rfl
  unfold stampFormat stamp
  rw [readFormat_year hy, readFormat_literal, readFormat_number (by omega) hmonth, readFormat_literal,
    readFormat_number (by omega) hday, readFormat_literal, readFormat_number (by omega) hhour, readFormat_literal,
    readFormat_number (by omega) hminute, readFormat_literal, hend]
  rfl

/-- **The text of a date**, and the date that its numbers make. -/
lemma exists_stamp {t : Datetime} (hyear : 1000 ≤ (civil (t / days 1)).1 ∧ (civil (t / days 1)).1 ≤ 9999) :
    ∃ y m d h mi s, (strftime t).toList = stamp y m d h mi s ∧
      (y < 10000 ∧ m < 100 ∧ d < 100 ∧ h < 100 ∧ mi < 100 ∧ s < 100) ∧
      readFormat stampFormat (stamp y m d h mi s) = some [(y : ℤ), m, d, h, mi, s] ∧
      datetime y m d h mi s = .ok (t / second * second) := by
  obtain ⟨⟨y, m, d⟩, hcivil⟩ : ∃ date, civil (t / days 1) = date := ⟨_, rfl⟩
  obtain ⟨hm, hd, hday⟩ := civil_spec hcivil
  rw [hcivil] at hyear
  have hmonth : daysInMonth y m ≤ 31 := by
    unfold daysInMonth
    split
    · split <;> decide
    · split <;> decide
  have hdays : ∀ n : ℤ, days n = n * 86400000000 := by
    intro n
    unfold days second
    ring
  obtain ⟨n, hn⟩ : ∃ n : ℤ, n = t / 86400000000 := ⟨_, rfl⟩
  obtain ⟨s, hs⟩ : ∃ s : ℤ, s = t % 86400000000 / 1000000 := ⟨_, rfl⟩
  have hs' : t % days 1 / second = s := hs.symm
  have hs_bounds : 0 ≤ s ∧ s ≤ 86399 := by omega
  lift y to ℕ using by omega
  lift m to ℕ using by omega
  lift d to ℕ using by omega
  obtain ⟨h, hh⟩ : ∃ h : ℕ, s / 3600 = h := ⟨(s / 3600).toNat, by omega⟩
  obtain ⟨mi, hmi⟩ : ∃ mi : ℕ, s / 60 % 60 = mi := ⟨(s / 60 % 60).toNat, by omega⟩
  obtain ⟨sec, hsec⟩ : ∃ sec : ℕ, s % 60 = sec := ⟨(s % 60).toNat, by omega⟩
  refine ⟨y, m, d, h, mi, sec, ?_, by omega, ?_, ?_⟩
  · unfold strftime stamp
    rw [hcivil, hs']
    dsimp only
    rw [hh, hmi, hsec]
    simp only [String.toList_append]
    rw [toList_year (by omega) (by omega), toList_padded (by omega), toList_padded (by omega), toList_padded (by omega),
      toList_padded (by omega), toList_padded (by omega)]
    simp
  · exact readFormat_stamp (by omega) (by omega) (by omega) (by omega) (by omega) (by omega)
  · have hvalue : n * 86400000000 + ((h : ℤ) * 3600 + mi * 60 + sec) * 1000000 = t / 1000000 * 1000000 := by omega
    unfold datetime
    rw [if_pos (by omega), hday]
    refine congrArg Except.ok ?_
    calc days (t / days 1) + ((h : ℤ) * 3600 + mi * 60 + sec) * second
      _ = days n + ((h : ℤ) * 3600 + mi * 60 + sec) * 1000000 := by rw [hn]; rfl
      _ = n * 86400000000 + ((h : ℤ) * 3600 + mi * 60 + sec) * 1000000 := by rw [hdays]
      _ = t / second * second := hvalue

/-- **A date of four-digit year is read as it is written**, in whole seconds. -/
theorem strptime_strftime {t : Datetime}
    (hyear : 1000 ≤ (civil (t / days 1)).1 ∧ (civil (t / days 1)).1 ≤ 9999) :
    strptime (strftime t).toList = .ok (t / second * second) := by
  obtain ⟨y, m, d, h, mi, s, htext, -, hread, hdate⟩ := exists_stamp hyear
  unfold strptime
  rw [htext, hread]
  exact hdate

end RoundTrip

end FastapiTemplate.Python

import Mathlib.Algebra.Order.Ring.Int
import RiseVpn.Library.PrefixCode

/-!
# Calendar dates and the texts of instants

An instant is a number of nanoseconds since the first of January 1970. `civil` is the date of a day
in the proleptic Gregorian calendar, by years that start in March: a day lies in a cycle of 400
years, in one of its centuries, in one of the four-year spans of the century, and in one of the four
years. `rfc3339` is the text of an instant in UTC with as many digits of its second as it needs, the
format `RFC3339Nano` of Go. `readRfc3339` reads it back, for the years that have four digits
(`readRfc3339_rfc3339`), so that the text determines the instant.
-/

set_option autoImplicit false

namespace CivilTime

open PrefixCode

structure Date where
  year : ℤ
  month : ℤ
  day : ℤ
  deriving DecidableEq

/-- The part of a cycle of 400 years: the century, the four-year span, the year and the day of the
year, counted from the first of March. -/
structure CycleDay where
  century : ℤ
  span : ℤ
  year : ℤ
  day : ℤ

/-- The day in its cycle. The last century and the last year of a span are a day longer. -/
def cycleDay (day : ℤ) : CycleDay :=
  let century := min (day / 36524) 3
  let ofCentury := day - 36524 * century
  let ofSpan := ofCentury % 1461
  let year := min (ofSpan / 365) 3
  ⟨century, ofCentury / 1461, year, ofSpan - 365 * year⟩

/-- The date of a day, counted from the first of January 1970. -/
def civil (days : ℤ) : Date :=
  -- the first of March of year 0 was 719468 days before
  let cycle := (days + 719468) / 146097
  let part := cycleDay ((days + 719468) % 146097)
  let year := 400 * cycle + 100 * part.century + 4 * part.span + part.year
  -- months from March have 31, 30, 31, 30, 31 days, and again
  let month := (5 * part.day + 2) / 153
  ⟨if month < 10 then year else year + 1, if month < 10 then month + 3 else month - 9,
    part.day - (153 * month + 2) / 5 + 1⟩

example : civil 0 = ⟨1970, 1, 1⟩ ∧ civil 11016 = ⟨2000, 2, 29⟩ ∧ civil (-719528) = ⟨0, 1, 1⟩ := by
  decide

theorem cycleDay_spec (days : ℤ) {part : CycleDay} (hpart : cycleDay (days % 146097) = part) :
    days % 146097 = 36524 * part.century + 1461 * part.span + 365 * part.year + part.day ∧
      (0 ≤ part.century ∧ part.century ≤ 3) ∧ (0 ≤ part.span ∧ part.span ≤ 24) ∧
      (0 ≤ part.year ∧ part.year ≤ 3) ∧ 0 ≤ part.day ∧ part.day ≤ 365 := by
  subst hpart
  simp only [cycleDay]
  omega

theorem civil_bounds (days : ℤ) : (1 ≤ (civil days).month ∧ (civil days).month ≤ 12) ∧
    1 ≤ (civil days).day ∧ (civil days).day ≤ 31 := by
  obtain ⟨-, -, -, -, hdayNonneg, hdayLe⟩ := cycleDay_spec (days + 719468) rfl
  simp only [civil]
  split_ifs <;> omega

/-- The day of a date. -/
def daysOf (date : Date) : ℤ :=
  let year := if 3 ≤ date.month then date.year else date.year - 1
  let month := if 3 ≤ date.month then date.month - 3 else date.month + 9
  365 * year + year / 4 - year / 100 + year / 400 + (153 * month + 2) / 5 + date.day - 719469

theorem daysOf_fromMarch {month : ℤ} (hmonth : 0 ≤ month ∧ month < 12) (year day : ℤ) :
    daysOf ⟨if month < 10 then year else year + 1,
        if month < 10 then month + 3 else month - 9, day⟩ =
      365 * year + year / 4 - year / 100 + year / 400 + (153 * month + 2) / 5 + day - 719469 := by
  by_cases hlate : month < 10
  · simp only [daysOf, if_pos hlate, if_pos (by omega : 3 ≤ month + 3), add_sub_cancel_right]
  · simp only [daysOf, if_neg hlate, if_neg (by omega : ¬ 3 ≤ month - 9), add_sub_cancel_right,
      sub_add_cancel]

theorem daysOf_civil (days : ℤ) : daysOf (civil days) = days := by
  obtain ⟨hsum, hcentury, hspan, hyear, hday⟩ := cycleDay_spec (days + 719468) rfl
  rw [civil, daysOf_fromMarch (by omega)]
  generalize cycleDay ((days + 719468) % 146097) = part at *
  generalize hcycle : (days + 719468) / 146097 = cycle
  -- a cycle is 100 spans of leap years without three of its centuries
  have hspans : (400 * cycle + 100 * part.century + 4 * part.span + part.year) / 4 =
      100 * cycle + 25 * part.century + part.span := by omega
  have hcenturies : (400 * cycle + 100 * part.century + 4 * part.span + part.year) / 100 =
      4 * cycle + part.century := by omega
  have hcycles : (400 * cycle + 100 * part.century + 4 * part.span + part.year) / 400 =
      cycle := by omega
  rw [hspans, hcenturies, hcycles]
  omega

/-! ### The text of an instant -/

def dayLength : ℤ := 86400 * 1000000000

def Representable (instant : ℤ) : Prop :=
  0 ≤ (civil (instant / dayLength)).year ∧ (civil (instant / dayLength)).year ≤ 9999
  deriving Decidable

/-- The fraction of a second, without the zeros at its end. -/
def fraction (nanoseconds : ℕ) : List Char :=
  if nanoseconds = 0 then [] else '.' :: (padded 9 nanoseconds).rdropWhile (· = '0')

def dateText (date : Date) : List Char :=
  padded 4 date.year.toNat ++ '-' :: (padded 2 date.month.toNat ++ '-' ::
    padded 2 date.day.toNat)

def clockText (nanoseconds : ℕ) : List Char :=
  padded 2 (nanoseconds / 3600000000000) ++ ':' ::
    (padded 2 (nanoseconds / 60000000000 % 60) ++ ':' ::
      (padded 2 (nanoseconds / 1000000000 % 60) ++ fraction (nanoseconds % 1000000000)))

/-- `Time.Format(time.RFC3339Nano)` of an instant in UTC. -/
def rfc3339 (instant : ℤ) : List Char :=
  dateText (civil (instant / dayLength)) ++
    'T' :: (clockText (instant % dayLength).toNat ++ ['Z'])

example : String.ofList (rfc3339 1500000000) = "1970-01-01T00:00:01.5Z" := by decide

def readFraction : List Char → Option (ℕ × List Char)
  | '.' :: text =>
    let digits := text.takeWhile Char.isDigit
    if digits.isEmpty then none
    else some (Nat.ofDigitChars 10 (digits.take 9) 0 * 10 ^ (9 - digits.length),
      text.dropWhile Char.isDigit)
  | text => some (0, text)

/-- Reads an instant in UTC. The date has to be one of the calendar. -/
def readRfc3339 (text : List Char) : Option (ℤ × List Char) := do
  let (year, text) ← readPadded 4 text
  let (month, text) ← readPadded 2 (← expect '-' text)
  let (day, text) ← readPadded 2 (← expect '-' text)
  let (hours, text) ← readPadded 2 (← expect 'T' text)
  let (minutes, text) ← readPadded 2 (← expect ':' text)
  let (seconds, text) ← readPadded 2 (← expect ':' text)
  let (nanoseconds, text) ← readFraction text
  let rest ← expect 'Z' text
  let date : Date := ⟨year, month, day⟩
  if civil (daysOf date) = date ∧ hours < 24 ∧ minutes < 60 ∧ seconds < 60 then
    some (daysOf date * dayLength + (((hours * 60 + minutes) * 60 + seconds) * 1000000000 +
      nanoseconds : ℕ), rest)
  else none

theorem readFraction_fraction {n : ℕ} (hn : n < 10 ^ 9) (rest : List Char) :
    readFraction (fraction n ++ 'Z' :: rest) = some (n, 'Z' :: rest) := by
  unfold fraction
  split_ifs with hzero
  · rw [hzero]
    rfl
  have hvalue := ofDigitChars_rdropWhile (padded 9 n)
  rw [ofDigitChars_padded hn, length_padded] at hvalue
  have hlength : ((padded 9 n).rdropWhile (· = '0')).length ≤ 9 :=
    (List.rdropWhile_prefix _ _).length_le.trans (length_padded 9 n).le
  have hdigits : ∀ c ∈ (padded 9 n).rdropWhile (· = '0'), c.isDigit = true := fun c hc ↦
    isDigit_of_mem_padded ((List.rdropWhile_prefix _ _).subset hc)
  generalize (padded 9 n).rdropWhile (· = '0') = digits at *
  have hne : ¬ digits.isEmpty := by
    intro hempty
    rw [List.isEmpty_iff.mp hempty, Nat.ofDigitChars_nil] at hvalue
    omega
  rw [List.cons_append, readFraction, List.takeWhile_append_of_pos hdigits,
    List.dropWhile_append_of_pos hdigits, List.takeWhile_cons_of_neg (by decide),
    List.dropWhile_cons_of_neg (by decide), List.append_nil, if_neg hne,
    List.take_of_length_le hlength, hvalue]

theorem readRfc3339_rfc3339 {instant : ℤ} (hinstant : Representable instant) (rest : List Char) :
    readRfc3339 (rfc3339 instant ++ rest) = some (instant, rest) := by
  obtain ⟨hyear, hyearLe⟩ := hinstant
  obtain ⟨⟨hmonth, hmonthLe⟩, hday, hdayLe⟩ := civil_bounds (instant / dayLength)
  have hclock := Int.emod_lt_of_pos instant (by decide : 0 < dayLength)
  have hnonneg := Int.emod_nonneg instant (by decide : dayLength ≠ 0)
  have hsplit := Int.emod_add_mul_ediv instant dayLength
  have hdate : (⟨((civil (instant / dayLength)).year.toNat : ℕ),
      ((civil (instant / dayLength)).month.toNat : ℕ),
      ((civil (instant / dayLength)).day.toNat : ℕ)⟩ : Date) = civil (instant / dayLength) := by
    rw [Int.toNat_of_nonneg hyear, Int.toNat_of_nonneg (by omega), Int.toNat_of_nonneg (by omega)]
  have hlength : dayLength = 86400000000000 := rfl
  simp only [readRfc3339, rfc3339, dateText, clockText, List.append_assoc, List.cons_append,
    List.nil_append, Option.bind_eq_bind]
  generalize hnano : (instant % dayLength).toNat = clock
  have hyearDigits : (civil (instant / dayLength)).year.toNat < 10 ^ 4 := by omega
  have hmonthDigits : (civil (instant / dayLength)).month.toNat < 10 ^ 2 := by omega
  have hdayDigits : (civil (instant / dayLength)).day.toNat < 10 ^ 2 := by omega
  have hhours : clock / 3600000000000 < 10 ^ 2 := by omega
  have hminutes : clock / 60000000000 % 60 < 10 ^ 2 := by omega
  have hseconds : clock / 1000000000 % 60 < 10 ^ 2 := by omega
  have hnanoseconds : clock % 1000000000 < 10 ^ 9 := by omega
  simp only [readPadded_padded hyearDigits, readPadded_padded hmonthDigits,
    readPadded_padded hdayDigits, readPadded_padded hhours, readPadded_padded hminutes,
    readPadded_padded hseconds, readFraction_fraction hnanoseconds, Option.bind_some, expect_cons]
  rw [hdate, daysOf_civil, if_pos ⟨rfl, by omega, by omega, by omega⟩, Option.some.injEq,
    Prod.mk.injEq]
  refine ⟨?_, rfl⟩
  have hwhole : ((clock / 3600000000000 * 60 + clock / 60000000000 % 60) * 60 +
      clock / 1000000000 % 60) * 1000000000 + clock % 1000000000 = clock := by omega
  rw [hwhole, ← hnano, Int.toNat_of_nonneg hnonneg, mul_comm, add_comm]
  exact hsplit

end CivilTime

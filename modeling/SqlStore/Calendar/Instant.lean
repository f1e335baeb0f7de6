import SqlStore.Decimal.Basic

namespace SqlStore.Calendar

/-! ## Civil dates -/

structure Civil where
  year : Int
  month : Nat
  day : Nat
deriving Repr, DecidableEq

def isLeap (year : Int) : Bool :=
  decide (year % 4 = 0) && (decide (year % 100 ≠ 0) || decide (year % 400 = 0))

def daysInMonth (year : Int) (month : Nat) : Nat :=
  if month = 2 then (if isLeap year then 29 else 28)
  else if month = 4 || month = 6 || month = 9 || month = 11 then 30
  else 31

def firstYear : Int := -262143

def lastYear : Int := 262142

def Civil.isValid (d : Civil) : Bool :=
  decide (firstYear ≤ d.year) && decide (d.year ≤ lastYear)
    && decide (1 ≤ d.month) && decide (d.month ≤ 12)
    && decide (1 ≤ d.day) && decide (d.day ≤ daysInMonth d.year d.month)

/-- The day number of a date. Years are counted from 1 March, so that a leap day comes last, and
in eras of 400 years, which have 146097 days. -/
def Civil.dayNumber (d : Civil) : Int :=
  let y := if d.month ≤ 2 then d.year - 1 else d.year
  let era := y.fdiv 400
  let yearOfEra := y - era * 400
  let monthFromMarch : Int := if d.month > 2 then d.month - 3 else d.month + 9
  let dayOfYear := (153 * monthFromMarch + 2).fdiv 5 + d.day - 1
  let dayOfEra := yearOfEra * 365 + yearOfEra.fdiv 4 - yearOfEra.fdiv 100 + dayOfYear
  era * 146097 + dayOfEra - 719468

def Civil.ofDayNumber (n : Int) : Civil :=
  let z := n + 719468
  let era := z.fdiv 146097
  let dayOfEra := z - era * 146097
  let yearOfEra :=
    (dayOfEra - dayOfEra.fdiv 1460 + dayOfEra.fdiv 36524 - dayOfEra.fdiv 146096).fdiv 365
  let dayOfYear := dayOfEra - (365 * yearOfEra + yearOfEra.fdiv 4 - yearOfEra.fdiv 100)
  let monthFromMarch := (5 * dayOfYear + 2).fdiv 153
  let day := dayOfYear - (153 * monthFromMarch + 2).fdiv 5 + 1
  let month := if monthFromMarch < 10 then monthFromMarch + 3 else monthFromMarch - 9
  { year := yearOfEra + era * 400 + (if month ≤ 2 then 1 else 0)
    month := month.toNat
    day := day.toNat }

/-! ## Instants -/

/-- A point of universal time: whole seconds since 1970-01-01T00:00:00, rounded down, and the
nanoseconds after that. From 10⁹ nanoseconds on it lies in the leap second after that second. -/
structure Instant where
  seconds : Int
  nanos : Nat
deriving Repr, DecidableEq

def Instant.compare (a b : Instant) : Ordering :=
  (Ord.compare a.seconds b.seconds).then (Ord.compare a.nanos b.nanos)

def secondsPerDay : Int := 86400

def Instant.millis (t : Instant) : Int :=
  t.seconds * 1000 + t.nanos / 1000000

def Instant.dayNumber (t : Instant) : Int :=
  t.seconds.fdiv secondsPerDay

def Instant.ofMillis? (ms : Int) : Option Instant :=
  let t : Instant := ⟨ms.fdiv 1000, (ms.fmod 1000).toNat * 1000000⟩
  let year := (Civil.ofDayNumber t.dayNumber).year
  if firstYear ≤ year ∧ year ≤ lastYear then some t else none

def padded (width n : Nat) : List Char :=
  let ds := Nat.toDigits 10 n
  List.replicate (width - ds.length) '0' ++ ds

def yearText (year : Int) : List Char :=
  if 0 ≤ year ∧ year ≤ 9999 then padded 4 year.natAbs
  else (if year < 0 then '-' else '+') :: padded 4 year.natAbs

def fractionText (nanos : Nat) : List Char :=
  if nanos = 0 then []
  else if nanos % 1000000 = 0 then '.' :: padded 3 (nanos / 1000000)
  else if nanos % 1000 = 0 then '.' :: padded 6 (nanos / 1000)
  else '.' :: padded 9 nanos

def Instant.text (zone : String) (t : Instant) : String :=
  let date := Civil.ofDayNumber t.dayNumber
  let ofDay := (t.seconds - t.dayNumber * secondsPerDay).toNat
  let leap := decide (1000000000 ≤ t.nanos)
  let second := ofDay % 60 + (if leap then 1 else 0)
  let nanos := if leap then t.nanos - 1000000000 else t.nanos
  String.ofList (yearText date.year ++ '-' :: padded 2 date.month ++ '-' :: padded 2 date.day
    ++ 'T' :: padded 2 (ofDay / 3600) ++ ':' :: padded 2 (ofDay / 60 % 60)
    ++ ':' :: padded 2 second ++ fractionText nanos ++ zone.toList)

end SqlStore.Calendar

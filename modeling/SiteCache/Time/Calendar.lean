set_option autoImplicit false

namespace SiteCache.Time

structure Date where
  year : Int
  month : Nat
  day : Nat
  deriving DecidableEq, Repr

def isLeapYear (year : Int) : Bool :=
  year % 4 = 0 && (year % 100 ≠ 0 || year % 400 = 0)

def daysInMonth (year : Int) (month : Nat) : Nat :=
  if month = 2 then (if isLeapYear year then 29 else 28)
  else if month = 4 ∨ month = 6 ∨ month = 9 ∨ month = 11 then 30
  else 31

/-- Days since 1970-01-01. Years are counted from March, so that a leap day ends its year. -/
def Date.number (date : Date) : Int :=
  let year := if date.month ≤ 2 then date.year - 1 else date.year
  let month : Int := if date.month ≤ 2 then date.month + 9 else date.month - 3
  let era := year / 400
  let ofEra := year % 400
  let ofYear := (153 * month + 2) / 5 + date.day - 1
  era * 146097 + ofEra * 365 + ofEra / 4 - ofEra / 100 + ofYear - 719468

def Date.ofNumber (n : Int) : Date :=
  let shifted := n + 719468
  let era := shifted / 146097
  let ofEra := shifted % 146097
  let year := (ofEra - ofEra / 1460 + ofEra / 36524 - ofEra / 146096) / 365
  let ofYear := ofEra - (365 * year + year / 4 - year / 100)
  let month := (5 * ofYear + 2) / 153
  let day := ofYear - (153 * month + 2) / 5 + 1
  let civilMonth := if month < 10 then month + 3 else month - 9
  ⟨year + era * 400 + (if civilMonth ≤ 2 then 1 else 0), civilMonth.toNat, day.toNat⟩

def firstYear : Int := -262143

def lastYear : Int := 262142

def Date.isValid (date : Date) : Bool :=
  firstYear ≤ date.year && date.year ≤ lastYear && 1 ≤ date.month && date.month ≤ 12 &&
    1 ≤ date.day && date.day ≤ daysInMonth date.year date.month

def firstDay : Int := Date.number ⟨firstYear, 1, 1⟩

def lastDay : Int := Date.number ⟨lastYear, 12, 31⟩

end SiteCache.Time

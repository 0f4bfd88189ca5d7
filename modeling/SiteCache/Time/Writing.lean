import SiteCache.Text.Decimal
import SiteCache.Time.Instant

set_option autoImplicit false

namespace SiteCache.Time

open Text (paddedDigits digitsOf)

def yearText (year : Int) : List Char :=
  if 0 ≤ year ∧ year ≤ 9999 then paddedDigits 4 year.toNat
  else (if year < 0 then '-' else '+') :: paddedDigits 4 year.natAbs

def Date.write (date : Date) : List Char :=
  yearText date.year ++ '-' :: paddedDigits 2 date.month ++ '-' :: paddedDigits 2 date.day

def fractionText (nano : Nat) : List Char :=
  if nano = 0 then []
  else if nano % 1000000 = 0 then '.' :: paddedDigits 3 (nano / 1000000)
  else if nano % 1000 = 0 then '.' :: paddedDigits 6 (nano / 1000)
  else '.' :: paddedDigits 9 nano

def clockText (second nano : Nat) : List Char :=
  let extra := nano / 1000000000
  paddedDigits 2 (second / 3600) ++ ':' :: paddedDigits 2 (second / 60 % 60) ++
    ':' :: paddedDigits 2 (second % 60 + extra) ++ fractionText (nano % 1000000000)

def Instant.write (t : Instant) : List Char :=
  (Date.ofNumber t.day).write ++ 'T' :: clockText t.second t.nano ++ ['Z']

def Instant.render (t : Instant) : String := .ofList t.write

end SiteCache.Time

import SiteCache.Time.Calendar

set_option autoImplicit false

namespace SiteCache.Time

/-- A point in time on the UTC scale. A nanosecond count of a billion or more reaches into a leap
second, which may follow any second of a minute. -/
structure Instant where
  day : Int
  second : Nat
  nano : Nat
  day_from : firstDay ≤ day
  day_to : day ≤ lastDay
  second_lt : second < 86400
  nano_lt : nano < 2000000000
  deriving DecidableEq

/-- A point in time from its parts, with leap seconds at the end of a minute only. -/
def Instant.make? (day : Int) (second nano : Nat) : Option Instant :=
  if h : firstDay ≤ day ∧ day ≤ lastDay ∧ second < 86400 ∧ nano < 2000000000 ∧
      (1000000000 ≤ nano → second % 60 = 59) then
    some ⟨day, second, nano, h.1, h.2.1, h.2.2.1, h.2.2.2.1⟩
  else none

def Instant.epoch : Instant :=
  ⟨0, 0, 0, by decide, by decide, by decide, by decide⟩

instance : Inhabited Instant := ⟨.epoch⟩

def Instant.le (a b : Instant) : Bool :=
  a.day < b.day ||
    (a.day = b.day && (a.second < b.second || (a.second = b.second && a.nano ≤ b.nano)))

end SiteCache.Time

import Mathlib.Tactic.SplitIfs
import SiteCache.Time.Calendar

set_option autoImplicit false

namespace SiteCache.Time

/-- Day `n` of an era of four hundred years that begins in March is day `day` of its year `year`,
all counted from zero. -/
structure InEra (n year day : Int) : Prop where
  year_from : 0 ≤ year
  year_to : year ≤ 399
  day_from : 0 ≤ day
  day_to : day ≤ 364 ∨ day = 365 ∧ year % 4 = 3 ∧ (year % 100 = 99 → year = 399)
  count : n = 365 * year + year / 4 - year / 100 + day

-- Whole centuries first, then whole spans of four years, then whole years. The last century and the
-- last year of a span are a day longer than the others, so that a quotient can be one too many.
theorem exists_inEra {n : Int} (low : 0 ≤ n) (high : n ≤ 146096) :
    ∃ year day, InEra n year day := by
  obtain ⟨century, x, isCentury⟩ : ∃ c x, 0 ≤ c ∧ c ≤ 3 ∧ 0 ≤ x ∧ x ≤ 36524 ∧
      (x = 36524 → c = 3) ∧ n = 36524 * c + x := by
    by_cases n = 146096
    · exact ⟨3, 36524, by omega⟩
    · exact ⟨n / 36524, n % 36524, by omega⟩
  obtain ⟨span, y, isSpan⟩ : ∃ q y, 0 ≤ q ∧ q ≤ 24 ∧ 0 ≤ y ∧ y ≤ 1460 ∧ x = 1461 * q + y :=
    ⟨x / 1461, x % 1461, by omega⟩
  obtain ⟨year, day, isYear⟩ : ∃ s d, 0 ≤ s ∧ s ≤ 3 ∧ 0 ≤ d ∧ (d ≤ 364 ∨ d = 365 ∧ s = 3) ∧
      y = 365 * s + d := by
    by_cases y = 1460
    · exact ⟨3, 365, by omega⟩
    · exact ⟨y / 365, y % 365, by omega⟩
  exact ⟨100 * century + 4 * span + year, day, by omega, by omega, by omega, by omega, by omega⟩

-- The quotients correct each other: without the leap days before it a day falls into its year when
-- divided by 365.
theorem InEra.year_eq {n year day : Int} (inEra : InEra n year day) :
    (n - n / 1460 + n / 36524 - n / 146096) / 365 = year := by
  obtain ⟨year_from, year_to, day_from, day_to, count⟩ := inEra
  obtain ⟨c, q, s, hc, hq, hs, parts⟩ : ∃ c q s : Int, (0 ≤ c ∧ c ≤ 3) ∧ (0 ≤ q ∧ q ≤ 24) ∧
      (0 ≤ s ∧ s ≤ 3) ∧ year = 100 * c + 4 * q + s :=
    ⟨year / 100, year % 100 / 4, year % 4, by omega, by omega, by omega, by omega⟩
  have spans : year / 4 = 25 * c + q := by omega
  have centuries : year / 100 = c := by omega
  have days : n = 36524 * c + 1461 * q + 365 * s + day := by omega
  have longest : day = 365 → s = 3 ∧ (q = 24 → c = 3) := by omega
  have short : day ≤ 364 ∨ day = 365 := by omega
  clear day_to count
  have wholeCenturies : n / 36524 - n / 146096 = c := by
    by_cases last : n = 146096
    · omega
    · have withinEra : n / 146096 = 0 := by omega
      have withinCentury : n / 36524 = c := by omega
      omega
  have wholeSpans : n / 1460 = 25 * c + q + (n - 1460 * (25 * c + q)) / 1460 := by omega
  omega

/-- A date and where its day, day `n`, is found: in which era, on which day of which of its years,
and in which month of that year, counted from March. -/
structure Reckoned (n : Int) (date : Date) (era year day month : Int) : Prop where
  inEra : InEra (n + 719468 - 146097 * era) year day
  month_from : 0 ≤ month
  month_to : month ≤ 11
  day_from : (153 * month + 2) / 5 ≤ day
  day_to : day < (153 * (month + 1) + 2) / 5
  date_year : date.year = 400 * era + year + if month < 10 then 0 else 1
  date_month : (date.month : Int) = if month < 10 then month + 3 else month - 9
  date_day : (date.day : Int) = day - (153 * month + 2) / 5 + 1

theorem exists_reckoned (n : Int) :
    ∃ era year day month, Reckoned n (Date.ofNumber n) era year day month := by
  obtain ⟨year, day, inEra⟩ : ∃ year day, InEra ((n + 719468) % 146097) year day :=
    exists_inEra (by omega) (by omega)
  have yearOf := inEra.year_eq
  have dayOf : (n + 719468) % 146097 - (365 * year + year / 4 - year / 100) = day := by
    have count := inEra.count
    omega
  have short : 0 ≤ day ∧ day ≤ 365 := by
    obtain ⟨-, -, day_from, day_to, -⟩ := inEra
    omega
  have place : n + 719468 - 146097 * ((n + 719468) / 146097) = (n + 719468) % 146097 := by omega
  refine ⟨(n + 719468) / 146097, year, day, (5 * day + 2) / 153, ?_⟩
  constructor <;> try simp only [Date.ofNumber, yearOf, dayOf]
  case inEra => rwa [place]
  all_goals omega

namespace Reckoned

variable {n era year day month : Int} {date : Date}

theorem number_eq (reckoned : Reckoned n date era year day month) : date.number = n := by
  obtain ⟨⟨year_from, year_to, -, -, count⟩, month_from, month_to, -, -, date_year, date_month,
    date_day⟩ := reckoned
  have yearOf : (if date.month ≤ 2 then date.year - 1 else date.year) = 400 * era + year := by
    split_ifs at * <;> omega
  have monthOf : (if date.month ≤ 2 then (date.month : Int) + 9 else date.month - 3) = month := by
    split_ifs at * <;> omega
  simp only [Date.number, yearOf, monthOf]
  omega

-- The first day is in the year 256 of its era and the last one in the year 142, when the years
-- begin in March.
theorem year_within (reckoned : Reckoned n date era year day month) (low : firstDay ≤ n)
    (high : n ≤ lastDay) : firstYear ≤ date.year ∧ date.year ≤ lastYear := by
  obtain ⟨⟨year_from, year_to, -, short, count⟩, month_from, month_to, day_from, day_to,
    date_year, -, -⟩ := reckoned
  have first : firstDay = -96465292 := by decide
  have last : lastDay = 95026236 := by decide
  rw [firstYear, lastYear]
  constructor
  · have era_from : -656 ≤ era := by omega
    have year_from : era = -656 → 256 ≤ year := by omega
    have day_from : era = -656 → year = 256 → 306 ≤ day := by omega
    split_ifs at date_year <;> omega
  · have era_to : era ≤ 655 := by omega
    have year_to : era = 655 → year ≤ 142 := by omega
    have day_to : era = 655 → year = 142 → day ≤ 305 := by omega
    split_ifs at date_year <;> omega

theorem day_le (reckoned : Reckoned n date era year day month) :
    date.day ≤ daysInMonth date.year date.month := by
  obtain ⟨⟨-, -, -, longest, -⟩, month_from, month_to, day_from, day_to, date_year, date_month,
    date_day⟩ := reckoned
  have leap : isLeapYear date.year ∨ day ≤ 364 := by
    refine longest.symm.imp_left fun ⟨last, fourth, century⟩ => ?_
    have february : month = 11 := by omega
    rw [february, if_neg (by decide)] at date_year
    simp only [isLeapYear, Bool.and_eq_true, Bool.or_eq_true, decide_eq_true_eq]
    omega
  rw [daysInMonth]
  obtain isLeap | short := leap
  · rw [if_pos isLeap]
    split_ifs at date_month ⊢ <;> omega
  · split_ifs at date_month ⊢ <;> omega

end Reckoned

theorem number_ofNumber (n : Int) : (Date.ofNumber n).number = n := by
  obtain ⟨_, _, _, _, reckoned⟩ := exists_reckoned n
  exact reckoned.number_eq

theorem isValid_ofNumber {n : Int} (low : firstDay ≤ n) (high : n ≤ lastDay) :
    (Date.ofNumber n).isValid := by
  obtain ⟨era, year, day, month, reckoned⟩ := exists_reckoned n
  have years := reckoned.year_within low high
  have days := reckoned.day_le
  obtain ⟨-, month_from, month_to, day_from, -, -, date_month, date_day⟩ := reckoned
  have months : 1 ≤ (Date.ofNumber n).month ∧ (Date.ofNumber n).month ≤ 12 := by
    split_ifs at date_month <;> omega
  have start : 1 ≤ (Date.ofNumber n).day := by omega
  simp [Date.isValid, years, months, days, start]

end SiteCache.Time

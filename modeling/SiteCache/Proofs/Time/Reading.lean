import SiteCache.Proofs.Fallible
import SiteCache.Proofs.Text.Blank
import SiteCache.Proofs.Text.Decimal
import SiteCache.Proofs.Time.Calendar
import SiteCache.Time.Reading
import SiteCache.Time.Writing

set_option autoImplicit false

namespace SiteCache.Time

open Text (Undigited paddedDigits)

-- Where a numeral begins nothing is passed over, and it is read to where its width ends or where no
-- digit follows.
section

variable {digits n : Nat} (rest : List Char)

theorem trimStart_paddedDigits :
    Text.trimStart (paddedDigits digits n ++ rest) = paddedDigits digits n ++ rest := by
  obtain ⟨c, more, written, digit⟩ := Text.exists_cons_of_digits
    (Text.digits_paddedDigits digits n) (Text.paddedDigits_ne_nil digits n)
  rw [written, Text.trimStart, List.cons_append, List.dropWhile_cons_of_neg]
  simp [Text.not_blank_of_digit digit]

theorem number_paddedDigits {width : Nat} (narrow : (paddedDigits digits n).length ≤ width)
    (ends : (paddedDigits digits n).length = width ∨ Undigited rest) (small : n ≤ Text.maxInt64) :
    number width (paddedDigits digits n ++ rest) = .ok (n, rest) := by
  have all := Text.digits_paddedDigits digits n
  have value := Text.value_paddedDigits digits n
  obtain ⟨c, more, written⟩ := List.exists_cons_of_ne_nil (Text.paddedDigits_ne_nil digits n)
  have ends' : Undigited (rest.take (width - (paddedDigits digits n).length)) := by
    rcases ends with full | ends
    · simp [full, Undigited]
    · exact ends.take _
  have taken : ((paddedDigits digits n ++ rest).take width).takeWhile Char.isDigit =
      paddedDigits digits n := by
    rw [List.take_append, List.take_of_length_le narrow, Text.takeWhile_digits all ends']
  have bounded := Text.boundedDigits_of_digits all .tooLarge 0 (value ▸ small)
  rw [value] at bounded
  rw [number, taken]
  rw [written] at bounded ⊢
  dsimp only
  rw [bounded]
  dsimp only
  rw [List.drop_left]

theorem number_filled (some_digits : 0 < digits) (fits : n < 10 ^ digits)
    (small : n ≤ Text.maxInt64) :
    number digits (paddedDigits digits n ++ rest) = .ok (n, rest) := by
  have length := Text.length_paddedDigits some_digits fits
  exact number_paddedDigits rest (Nat.le_of_eq length) (.inl length) small

theorem numberWithin_paddedDigits {low high : Nat} (within : low ≤ n ∧ n ≤ high)
    (narrow : high ≤ 99) : numberWithin 2 low high (paddedDigits 2 n ++ rest) = .ok (n, rest) := by
  have small : n ≤ Text.maxInt64 := by
    simp only [Text.maxInt64]
    omega
  rw [numberWithin, trimStart_paddedDigits, number_filled rest (by decide) (by omega) small]
  exact if_pos within

theorem year_yearText {y : Int} (low : firstYear ≤ y) (high : y ≤ lastYear)
    (ends : Undigited rest) : year (yearText y ++ rest) = .ok (y, rest) := by
  rw [firstYear] at low
  rw [lastYear] at high
  have range : -(Text.maxInt32 : Int) - 1 ≤ y ∧ y ≤ Text.maxInt32 := by
    simp only [Text.maxInt32]
    omega
  have small : y.natAbs ≤ Text.maxInt64 := by
    simp only [Text.maxInt64]
    omega
  by_cases plain : 0 ≤ y ∧ y ≤ 9999
  · have same : y.toNat = y.natAbs := by omega
    have value : (y.natAbs : Int) = y := by omega
    have read : number 4 (paddedDigits 4 y.natAbs ++ rest) = .ok (y.natAbs, rest) :=
      number_filled rest (by decide) (by omega) small
    obtain ⟨c, more, written, digit⟩ := Text.exists_cons_of_digits
      (Text.digits_paddedDigits 4 y.natAbs) (Text.paddedDigits_ne_nil 4 y.natAbs)
    rw [yearText, if_pos plain, same, year, trimStart_paddedDigits]
    split
    case h_1 start =>
      rw [written] at start
      obtain ⟨rfl, -⟩ := List.cons.inj start
      cases digit
    case h_2 start =>
      rw [written] at start
      obtain ⟨rfl, -⟩ := List.cons.inj start
      cases digit
    case h_3 =>
      simp only [read, Except.map, bind, Except.bind, value, if_pos range, pure, Except.pure]
  · have read : number (paddedDigits 4 y.natAbs ++ rest).length (paddedDigits 4 y.natAbs ++ rest) =
        .ok (y.natAbs, rest) :=
      number_paddedDigits rest (List.sublist_append_left _ rest).length_le (.inr ends) small
    rw [yearText, if_neg plain]
    by_cases negative : y < 0
    · have value : -(y.natAbs : Int) = y := by omega
      have start : Text.trimStart ('-' :: paddedDigits 4 y.natAbs ++ rest) =
        '-' :: (paddedDigits 4 y.natAbs ++ rest) := rfl
      rw [if_pos negative, year, start]
      simp only [read, Except.map, bind, Except.bind, value, if_pos range, pure, Except.pure]
    · have value : (y.natAbs : Int) = y := by omega
      have start : Text.trimStart ('+' :: paddedDigits 4 y.natAbs ++ rest) =
        '+' :: (paddedDigits 4 y.natAbs ++ rest) := rfl
      rw [if_neg negative, year, start]
      simp only [read, Except.map, bind, Except.bind, value, if_pos range, pure, Except.pure]

theorem readDate_write {date : Date} (valid : date.isValid) :
    readDate (date.write ++ rest) = .ok (date, rest) := by
  simp only [Date.isValid, Bool.and_eq_true, decide_eq_true_eq] at valid
  obtain ⟨⟨⟨⟨⟨low, high⟩, month_from⟩, month_to⟩, day_from⟩, day_to⟩ := valid
  have length : daysInMonth date.year date.month ≤ 31 := by
    rw [daysInMonth]
    split_ifs <;> decide
  have shortDay := Nat.le_trans day_to length
  have years := year_yearText
    ('-' :: (paddedDigits 2 date.month ++ '-' :: (paddedDigits 2 date.day ++ rest))) low high
    (by simp [Undigited])
  have hyphen (s : List Char) : separator '-' ('-' :: s) = .ok s := rfl
  simp (disch := omega) only [readDate, Date.write, List.append_assoc, List.cons_append, years,
    hyphen, numberWithin_paddedDigits, bind, Except.bind, pure, Except.pure]

theorem fraction_paddedDigits (some_digits : 0 < digits) (narrow : digits ≤ 9)
    (fits : n < 10 ^ digits) :
    fraction ('.' :: paddedDigits digits n ++ ['Z']) = .ok (n * 10 ^ (9 - digits), ['Z']) := by
  have most : n < 10 ^ 9 := Nat.lt_of_lt_of_le fits (Nat.pow_le_pow_right (by decide) narrow)
  have length := Text.length_paddedDigits some_digits fits
  have read : number 9 (paddedDigits digits n ++ ['Z']) = .ok (n, ['Z']) :=
    number_paddedDigits ['Z'] (Nat.le_trans (Nat.le_of_eq length) narrow)
      (.inr (by simp [Undigited])) (by simp only [Text.maxInt64]; omega)
  simp [fraction, read, length, bind, Except.bind, pure, Except.pure]

theorem fraction_fractionText {nano : Nat} (fits : nano < 1000000000) :
    fraction (fractionText nano ++ ['Z']) = .ok (nano, ['Z']) := by
  rw [fractionText]
  split_ifs with none millis micros
  · rw [none]
    rfl
  · have whole : nano / 1000000 * 10 ^ (9 - 3) = nano := by omega
    rw [fraction_paddedDigits (by decide) (by decide) (by omega), whole]
  · have whole : nano / 1000 * 10 ^ (9 - 6) = nano := by omega
    rw [fraction_paddedDigits (by decide) (by decide) (by omega), whole]
  · have whole : nano * 10 ^ (9 - 9) = nano := by omega
    rw [fraction_paddedDigits (by decide) (by decide) (by omega), whole]

end

namespace Instant

/-- A leap second follows the last second of a minute only. -/
def Settled (t : Instant) : Prop := 1000000000 ≤ t.nano → t.second % 60 = 59

instance (t : Instant) : Decidable t.Settled := inferInstanceAs (Decidable (_ → _))

/-- Counts a leap second within a minute as the second that follows. -/
def settle (t : Instant) : Instant :=
  if h : t.Settled then t
  else
    have strays : 1000000000 ≤ t.nano ∧ t.second % 60 ≠ 59 := by simpa [Settled] using h
    have second_lt := t.second_lt
    have nano_lt := t.nano_lt
    ⟨t.day, t.second + 1, t.nano - 1000000000, t.day_from, t.day_to, by omega, by omega⟩

@[simp] theorem settle_day (t : Instant) : t.settle.day = t.day := by
  unfold settle
  split <;> rfl

theorem settled_settle (t : Instant) : t.settle.Settled := by
  unfold settle
  split
  case isTrue settled => exact settled
  case isFalse strays =>
    have nano_lt := t.nano_lt
    intro long
    dsimp only at long
    omega

theorem settle_eq_self_iff {t : Instant} : t.settle = t ↔ t.Settled := by
  unfold settle
  split
  case isTrue settled => exact iff_of_true rfl settled
  case isFalse strays =>
    refine iff_of_false (fun same => ?_) strays
    have second := congrArg Instant.second same
    dsimp only at second
    omega

-- The sixtieth second of a minute is read as its leap second, and any other one as an ordinary
-- second.
theorem settle_clock (t : Instant) : (t.settle.second, t.settle.nano) =
    if t.second % 60 + t.nano / 1000000000 = 60 then (t.second, t.nano)
    else (t.second + t.nano / 1000000000, t.nano % 1000000000) := by
  have nano_lt := t.nano_lt
  by_cases settled : t.Settled
  · rw [settle, dif_pos settled]
    unfold Settled at settled
    split
    · rfl
    · rw [Prod.mk.injEq]
      omega
  · rw [settle, dif_neg settled]
    unfold Settled at settled
    rw [if_neg (by omega), Prod.mk.injEq]
    dsimp only
    omega

end Instant

theorem readClock_clockText (t : Instant) :
    readClock (clockText t.second t.nano ++ ['Z']) =
      .ok ((t.settle.second, t.settle.nano), ['Z']) := by
  have second_lt := t.second_lt
  have nano_lt := t.nano_lt
  have fraction := fraction_fractionText (Nat.mod_lt t.nano (by decide : 0 < 1000000000))
  have colon (s : List Char) : separator ':' (':' :: s) = .ok s := rfl
  have rest : Text.trimStart ['Z'] = ['Z'] := rfl
  simp (disch := omega) only [readClock, clockText, List.append_assoc, List.cons_append,
    numberWithin_paddedDigits, colon, fraction, rest, bind, Except.bind, pure, Except.pure,
    t.settle_clock]
  congr 2
  split
  case isTrue leap =>
    have second : 3600 * (t.second / 3600) + 60 * (t.second / 60 % 60) + 59 = t.second := by omega
    have nano : t.nano % 1000000000 + 1000000000 = t.nano := by omega
    rw [second, nano]
  case isFalse =>
    have second : 3600 * (t.second / 3600) + 60 * (t.second / 60 % 60) +
        (t.second % 60 + t.nano / 1000000000) = t.second + t.nano / 1000000000 := by omega
    rw [second]

theorem resolve_utc {t : Instant} (settled : t.Settled) :
    resolve (Date.ofNumber t.day) (t.second, t.nano) 0 = .ok t := by
  have second_lt := t.second_lt
  have day : (t.day * 86400 + t.second - 0) / 86400 = t.day := by omega
  have second : ((t.day * 86400 + t.second - 0) % 86400).toNat = t.second := by omega
  have made : Instant.make? t.day t.second t.nano = some t :=
    dif_pos ⟨t.day_from, t.day_to, t.second_lt, t.nano_lt, settled⟩
  rw [resolve, if_pos ⟨isValid_ofNumber t.day_from t.day_to, by decide⟩]
  simp only [number_ofNumber, day, second, made]

theorem zoned_render (t : Instant) : zoned t.render = .ok t.settle := by
  have date := readDate_write ('T' :: (clockText t.second t.nano ++ ['Z']))
    (isValid_ofNumber t.day_from t.day_to)
  have clock := readClock_clockText t
  have resolved := resolve_utc t.settled_settle
  rw [Instant.settle_day] at resolved
  have between (s : List Char) : dateTimeBreak ('T' :: s) = .ok s := rfl
  have zone : readZone ['Z'] = .ok (0, []) := rfl
  have read : readZoned t.write = .ok t.settle := by
    simp only [readZoned, Instant.write, List.append_assoc, List.cons_append, date, between, clock,
      zone, resolved, bind, Except.bind]
    rfl
  rw [zoned, Instant.render, String.toList_ofList, read]
  rfl

theorem settled_of_resolve {date : Date} {clock : Nat × Nat} {offset : Int} {t : Instant}
    (resolved : resolve date clock offset = .ok t) : t.Settled := by
  unfold resolve at resolved
  dsimp only at resolved
  split at resolved
  · split at resolved
    · rename_i made
      cases resolved
      obtain ⟨possible, same⟩ := Option.dite_none_right_eq_some.mp made
      cases same
      exact possible.2.2.2.2
    · cases resolved
  · cases resolved

theorem settled_of_bare {s : String} {t : Instant} (read : bare s = .ok t) : t.Settled := by
  simp only [bare, mapError_eq_ok, readBare, bind_eq_ok] at read
  obtain ⟨⟨date, afterDate⟩, -, afterBreak, -, ⟨clock, left⟩, -, ends⟩ := read
  dsimp only at ends
  split at ends
  · exact settled_of_resolve ends
  · cases ends

theorem settled_of_zoned {s : String} {t : Instant} (read : zoned s = .ok t) : t.Settled := by
  simp only [zoned, mapError_eq_ok, readZoned, bind_eq_ok] at read
  obtain ⟨⟨date, afterDate⟩, -, afterBreak, -, ⟨clock, afterClock⟩, -, ⟨offset, left⟩, -, ends⟩ :=
    read
  dsimp only at ends
  split at ends
  · exact settled_of_resolve ends
  · cases ends

-- A leap second on the first of all days.
example : (Instant.make? firstDay 86399 1500000000).map Instant.render =
    some "-262143-01-01T23:59:60.500Z" := by
  decide +kernel

end SiteCache.Time

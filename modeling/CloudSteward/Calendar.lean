/-!
# Dates

Dates of the Gregorian calendar, extended to all years, and their numbers: the
days since the start of 1970. Days are counted in years that start with March,
so that a leap day is the last day of its year and the months before it follow
one pattern, 153 days for every five of them.

Results:

* `yearOf_eq_iff`: the year of a day is the one that has begun and whose next
  has not.
* `ofNumber_number`: a date comes back from its number.
-/

namespace CloudSteward

/-- A date; months and days are counted from one. -/
structure Date where
  year : Int
  month : Nat
  day : Nat
deriving DecidableEq, Repr

namespace Date

/-- Whether a year has a leap day. -/
def isLeapYear (y : Int) : Bool :=
  y % 4 == 0 && (y % 100 != 0 || y % 400 == 0)

/-- Number of days of a month. -/
def monthLength (y : Int) (month : Nat) : Nat :=
  if month = 2 then (if isLeapYear y then 29 else 28)
  else if [4, 6, 9, 11].contains month then 30 else 31

/-- Whether the calendar has a date. -/
def isValid (d : Date) : Bool :=
  1 ≤ d.month && d.month ≤ 12 && 1 ≤ d.day && d.day ≤ monthLength d.year d.month

/-! ## Years from March -/

/-- Days from 1 March of the year zero to 1 March of a year. -/
def yearStart (y : Int) : Int :=
  365 * y + y / 4 - y / 100 + y / 400

/-- Days from 1 March to the start of a month, which is given by the number of
    months since March. -/
def monthStart (m : Nat) : Nat :=
  (153 * m + 2) / 5

/-- Days from 1 March of the year zero to the start of 1970. -/
def epoch : Int := 719468

/-- The year that a day lies in, when both are counted from March. The mean
    length of a year gives this year or the one before. -/
def yearOf (n : Int) : Int :=
  let y := 400 * n / 146097
  if yearStart (y + 1) ≤ n then y + 1 else y

/-- Months from March to the month of a day, which is counted from 1 March. -/
def monthOf (day : Nat) : Nat :=
  (5 * day + 2) / 153

/-! ## Numbers -/

/-- Days from the start of 1970 to a date. -/
def number (d : Date) : Int :=
  yearStart (if d.month ≤ 2 then d.year - 1 else d.year) +
    (monthStart ((d.month + 9) % 12) + (d.day - 1) : Nat) - epoch

/-- The date so many days after the start of 1970. -/
def ofNumber (n : Int) : Date :=
  let y := yearOf (n + epoch)
  let day := (n + epoch - yearStart y).toNat
  let m := monthOf day
  { year := if m < 10 then y else y + 1
    month := if m < 10 then m + 3 else m - 9
    day := day - monthStart m + 1 }

/-! ## Laws -/

theorem yearStart_le {y z : Int} (h : y ≤ z) : yearStart y ≤ yearStart z := by
  unfold yearStart
  omega

/-- The years before a year differ from so many mean years by less than two
    days. -/
theorem yearStart_near (y : Int) :
    146097 * y - 600 ≤ 400 * yearStart y ∧ 400 * yearStart y ≤ 146097 * y + 300 := by
  unfold yearStart
  omega

theorem yearStart_yearOf (n : Int) :
    yearStart (yearOf n) ≤ n ∧ n < yearStart (yearOf n + 1) := by
  have now := yearStart_near (400 * n / 146097)
  have next := yearStart_near (400 * n / 146097 + 1 + 1)
  unfold yearOf
  simp only
  split <;> omega

theorem yearOf_eq_iff (n y : Int) : yearOf n = y ↔ yearStart y ≤ n ∧ n < yearStart (y + 1) := by
  have begun := yearStart_yearOf n
  constructor
  · rintro rfl
    exact begun
  · intro h
    rcases Int.lt_trichotomy (yearOf n) y with hlt | heq | hgt
    · have := yearStart_le (Int.add_one_le_of_lt hlt)
      omega
    · exact heq
    · have := yearStart_le (Int.add_one_le_of_lt hgt)
      omega

/-- A year from March ends with the February of the next year. -/
theorem yearStart_succ (y : Int) :
    yearStart (y + 1) = yearStart y + 337 + monthLength (y + 1) 2 := by
  have leap : isLeapYear (y + 1) = true ↔
      (y + 1) % 4 = 0 ∧ ((y + 1) % 100 ≠ 0 ∨ (y + 1) % 400 = 0) := by
    simp [isLeapYear]
  unfold yearStart monthLength
  simp only [if_true]
  split <;> rename_i h
  · rw [leap] at h
    omega
  · rw [leap] at h
    omega

/-- From March to January a month reaches to the start of the next one. -/
theorem monthLength_march (y : Int) {m : Nat} (h : m < 11) :
    monthLength y (if m < 10 then m + 3 else m - 9) = monthStart (m + 1) - monthStart m := by
  have : m = 0 ∨ m = 1 ∨ m = 2 ∨ m = 3 ∨ m = 4 ∨ m = 5 ∨ m = 6 ∨ m = 7 ∨ m = 8 ∨ m = 9 ∨
      m = 10 := by
    omega
  rcases this with rfl | rfl | rfl | rfl | rfl | rfl | rfl | rfl | rfl | rfl | rfl <;> rfl

/-- The date of a day that is given by its year, month and day from March. -/
theorem ofNumber_march (y : Int) (m day : Nat)
    (hyear : monthStart m + day < 337 + monthLength (y + 1) 2)
    (hmonth : monthStart m + day < monthStart (m + 1)) :
    ofNumber (yearStart y + (monthStart m + day : Nat) - epoch) =
      ⟨if m < 10 then y else y + 1, if m < 10 then m + 3 else m - 9, day + 1⟩ := by
  have year : yearOf (yearStart y + (monthStart m + day : Nat) - epoch + epoch) = y := by
    rw [yearOf_eq_iff, yearStart_succ]
    omega
  have month : monthOf (monthStart m + day) = m := by
    unfold monthOf monthStart at *
    omega
  have days : (yearStart y + (monthStart m + day : Nat) - epoch + epoch - yearStart y).toNat =
      monthStart m + day := by
    omega
  simp only [ofNumber, year, days, month, Nat.add_sub_cancel_left]

theorem monthLength_february (y : Int) : 28 ≤ monthLength y 2 ∧ monthLength y 2 ≤ 29 := by
  unfold monthLength
  cases isLeapYear y <;> decide

/-- A date comes back from its number. -/
theorem ofNumber_number {d : Date} (h : d.isValid = true) : ofNumber d.number = d := by
  obtain ⟨y, month, day⟩ := d
  simp only [isValid, Bool.and_eq_true, decide_eq_true_eq] at h
  obtain ⟨⟨⟨h1, h12⟩, hd⟩, hlen⟩ := h
  obtain ⟨y', hy'⟩ : ∃ y', y' = if month ≤ 2 then y - 1 else y := ⟨_, rfl⟩
  obtain ⟨m, hm⟩ : ∃ m, m = (month + 9) % 12 := ⟨_, rfl⟩
  have hyear : (if m < 10 then y' else y' + 1) = y := by
    split at hy' <;> split <;> omega
  have hmonth : (if m < 10 then m + 3 else m - 9) = month := by
    split <;> omega
  have bounds : monthStart m + (day - 1) < 337 + monthLength (y' + 1) 2 ∧
      monthStart m + (day - 1) < monthStart (m + 1) := by
    have february := monthLength_february y
    by_cases h11 : m < 11
    · have length := monthLength_march y h11
      have other := monthLength_february (y' + 1)
      rw [hmonth] at length
      unfold monthStart at *
      omega
    · obtain rfl : m = 11 := by omega
      obtain rfl : month = 2 := by omega
      have : y' + 1 = y := by simpa using hyear
      rw [this]
      unfold monthStart
      omega
  have := ofNumber_march y' m (day - 1) bounds.1 bounds.2
  rw [hyear, hmonth, Nat.sub_add_cancel hd] at this
  rw [number, ← hy', ← hm, this]

end Date

end CloudSteward

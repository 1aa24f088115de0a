import LoopGauge.Time.Date

/-!
# Days of the calendar

The date of a day is a date that the calendar has, and it is the date of no other day.

## Main statements

* `Date.exists?_ofDayNumber`: the calendar has the date of every day.
* `Date.dayNumber_ofDayNumber`: the number of the day comes back from its date.
-/

namespace LoopGauge.Time

open Number

theorem total_monthLengths (year : Int) :
    total (monthLengths year) = if isLeapYear year then 366 else 365 := by
  unfold monthLengths
  split <;> rfl

/-- A year has the days of its months. -/
theorem daysBeforeYear_succ (year : Int) :
    daysBeforeYear (year + 1) = daysBeforeYear year + total (monthLengths year) := by
  have hleap : isLeapYear year = true ↔ year % 4 = 0 ∧ (year % 100 ≠ 0 ∨ year % 400 = 0) := by
    simp [isLeapYear]
  rw [total_monthLengths]
  split
  next h =>
    rw [hleap] at h
    simp only [daysBeforeYear]
    omega
  next h =>
    rw [hleap] at h
    simp only [daysBeforeYear]
    omega

/-- Years are not far from their mean length. -/
theorem daysBeforeYear_bounds (year : Int) :
    146097 * (year - 1) - 699 ≤ 400 * daysBeforeYear year ∧
      400 * daysBeforeYear year ≤ 146097 * (year - 1) + 396 := by
  simp only [daysBeforeYear]
  omega

namespace Date

/-- The year of a day and the days of that year before it. -/
theorem exists_year (n : Int) : ∃ year : Int, ∃ rest : Nat,
    ofDayNumber n = withinYear year 1 rest (monthLengths year) ∧
      rest < total (monthLengths year) ∧
      n + daysBeforeYear 1970 = daysBeforeYear year + rest := by
  have hyear {year : Int} (hlow : daysBeforeYear year ≤ n + daysBeforeYear 1970)
      (hhigh : n + daysBeforeYear 1970 < daysBeforeYear (year + 1)) :
      (n + daysBeforeYear 1970 - daysBeforeYear year).toNat < total (monthLengths year) ∧
        n + daysBeforeYear 1970 =
          daysBeforeYear year + (n + daysBeforeYear 1970 - daysBeforeYear year).toNat := by
    rw [daysBeforeYear_succ] at hhigh
    omega
  -- The guess is off by less than a year, as no year starts far from where its mean would.
  have hguess : 146097 * ((n + daysBeforeYear 1970) * 400 / 146097) ≤
      400 * (n + daysBeforeYear 1970) ∧ 400 * (n + daysBeforeYear 1970) <
        146097 * ((n + daysBeforeYear 1970) * 400 / 146097 + 1) := by omega
  simp only [ofDayNumber]
  generalize (n + daysBeforeYear 1970) * 400 / 146097 = g at hguess
  have hlow := daysBeforeYear_bounds (g + 1)
  have hhigh := daysBeforeYear_bounds (g + 1 + 1)
  have hnext := daysBeforeYear_succ (g + 1 + 1)
  have hlength : 365 ≤ total (monthLengths (g + 1 + 1)) := by
    rw [total_monthLengths]
    split <;> decide
  refine ⟨_, _, rfl, hyear ?_ ?_⟩
  all_goals split
  · omega
  · split <;> omega
  · omega
  · split <;> omega

/-- The month and day found within a year leave as many days before them as were asked for. -/
theorem exists_withinYear (year : Int) (month : Nat) {rest : Nat} {lengths : List Nat}
    (h : rest < total lengths) : ∃ i length day, lengths[i]? = some length ∧
      withinYear year month rest lengths = ⟨year, month + i, day + 1⟩ ∧ day < length ∧
      total (lengths.take i) + day = rest := by
  induction lengths generalizing month rest with
  | nil => exact absurd h (Nat.not_lt_zero _)
  | cons l ls ih =>
    rw [withinYear]
    split
    next hlt => exact ⟨0, l, rest, rfl, rfl, hlt, Nat.zero_add rest⟩
    next hge =>
      rw [total] at h
      have hless : rest - l < total ls := by omega
      obtain ⟨i, length, day, hi, hdate, hday, hrest⟩ := ih (month + 1) hless
      refine ⟨i + 1, length, day, hi, ?_, hday, ?_⟩
      · rw [hdate, Nat.add_right_comm, Nat.add_assoc]
      · rw [List.take_succ_cons, total]
        omega

/-- The parts of the date of a day. -/
theorem exists_ofDayNumber (n : Int) : ∃ year : Int, ∃ i length day,
    (monthLengths year)[i]? = some length ∧ ofDayNumber n = ⟨year, i + 1, day + 1⟩ ∧
      day < length ∧ n + daysBeforeYear 1970 =
        daysBeforeYear year + total ((monthLengths year).take i) + day := by
  obtain ⟨year, rest, hdate, hlt, hn⟩ := exists_year n
  obtain ⟨i, length, day, hi, hwithin, hday, hrest⟩ := exists_withinYear year 1 hlt
  refine ⟨year, i, length, day, hi, ?_, hday, ?_⟩
  · rw [hdate, hwithin, Nat.add_comm 1 i]
  · omega

/-- The calendar has the date of every day. -/
theorem exists?_ofDayNumber (n : Int) : (ofDayNumber n).exists? := by
  obtain ⟨year, i, length, day, hi, hdate, hday, -⟩ := exists_ofDayNumber n
  rw [hdate]
  simp [exists?, hi]
  omega

/-- The number of a day comes back from its date. -/
theorem dayNumber_ofDayNumber (n : Int) : (ofDayNumber n).dayNumber = n := by
  obtain ⟨year, i, length, day, -, hdate, -, hn⟩ := exists_ofDayNumber n
  rw [hdate]
  simp only [dayNumber, Nat.add_sub_cancel]
  omega

/-- Months and days of dates have two digits. -/
theorem bounds_of_exists {d : Date} (h : d.exists?) :
    1 ≤ d.month ∧ d.month ≤ 12 ∧ 1 ≤ d.day ∧ d.day ≤ 31 := by
  have hlengths : ∀ length ∈ monthLengths d.year, length ≤ 31 := by
    unfold monthLengths
    split <;> decide
  simp only [exists?, Bool.and_eq_true, decide_eq_true_eq] at h
  obtain ⟨hday, hmonth⟩ := h
  split at hmonth
  next length hi =>
    obtain ⟨hlt, rfl⟩ := List.getElem?_eq_some_iff.1 hi
    have hle := hlengths _ (List.getElem_mem hlt)
    have htwelve : d.month - 1 < 12 := hlt
    simp only [Bool.and_eq_true, decide_eq_true_eq] at hmonth
    omega
  next => cases hmonth

end Date

end LoopGauge.Time

import LoopGauge.Proofs.Number.Digits
import LoopGauge.Proofs.Text.Trim
import LoopGauge.Proofs.Time.Date
import LoopGauge.Time.Stamp

/-!
# Reading timestamps that were written

The timestamp of every moment whose year is in range is read: each part is read up to the mark
behind it. A second on the clock that is no leap second is the second of the moment, so a moment
outside of leap seconds comes back.

## Main statements

* `exists_read?_full`: the timestamp of a moment is read.
-/

namespace LoopGauge.Time.Stamp

open Number Text

variable {c : Char} {ds rest : List Char}

section Parts

theorem not_isBlank_of_isDigit (h : isDigit c) : ¬isBlank c := by
  have hrange : 48 ≤ c.toNat ∧ c.toNat ≤ 57 := by
    simpa [isDigit, Char.le_def, UInt32.le_iff_toNat_le] using h
  simp [isBlank]
  omega

/-- Digits are read up to what is no digit. -/
theorem digitsUpTo_append {width : Nat} (hne : ds ≠ []) (hds : ∀ c ∈ ds, isDigit c)
    (hlength : ds.length ≤ width) (hrest : ∀ c, rest.head? = some c → ¬isDigit c) :
    digitsUpTo width (ds ++ rest) = some (ds, rest) := by
  have htake : (ds ++ rest).takeWhile isDigit = ds := takeWhile_append_of_head hds hrest
  simp [digitsUpTo, htake, List.take_of_length_le hlength, hne]

theorem trimStart_digits_append (hne : ds ≠ []) (hds : ∀ c ∈ ds, isDigit c) :
    trimStart (ds ++ rest) = ds ++ rest := by
  obtain ⟨d, ds, rfl⟩ := List.exists_cons_of_ne_nil hne
  exact trimStart_cons_of_not _ (not_isBlank_of_isDigit (hds d List.mem_cons_self))

theorem isDigit_paddedDigits {width n : Nat} : ∀ c ∈ paddedDigits width n, isDigit c :=
  fun _ hc => isDigit_of_mem_paddedDigits hc

/-- A field with its zeros in front is read. -/
theorem field_paddedDigits {low high n : Nat} (hhundred : n < 100) (hlow : low ≤ n)
    (hhigh : n ≤ high) (hrest : ∀ c, rest.head? = some c → ¬isDigit c) :
    field 2 low high (paddedDigits 2 n ++ rest) = some (n, rest) := by
  have hne := paddedDigits_ne_nil 2 n
  have hlength := length_paddedDigits (by decide) (show n < 10 ^ 2 from hhundred)
  simp [field, trimStart_digits_append hne isDigit_paddedDigits,
    digitsUpTo_append hne isDigit_paddedDigits hlength.le hrest, valueOf,
    ofDigitChars_paddedDigits, hlow, hhigh]

theorem separator_cons (hc : ¬isBlank c) (rest : List Char) :
    separator c (c :: rest) = some ((), rest) := by
  simp [separator, trimStart_cons_of_not rest hc]

end Parts

section Date

/-- A year without a sign has four digits. -/
theorem year_digits {y : Nat} (hy : y < 10000) (hrest : ∀ c, rest.head? = some c → ¬isDigit c) :
    year (paddedDigits 4 y ++ rest) = some ((y : Int), rest) := by
  have hne := paddedDigits_ne_nil 4 y
  have hlength := length_paddedDigits (by decide) (show y < 10 ^ 4 from hy)
  have hread := digitsUpTo_append hne isDigit_paddedDigits hlength.le hrest
  -- The first character is a digit, so the year is not taken for one with a sign.
  have hsign : ∀ c tail, paddedDigits 4 y ++ rest = c :: tail → isDigit c := by
    intro c tail heq
    have hhead : (paddedDigits 4 y).head? = some c := by
      rw [← List.head?_append_of_ne_nil _ hne, heq, List.head?_cons]
    exact isDigit_of_mem_paddedDigits (List.mem_of_mem_head? hhead)
  unfold year
  rw [trimStart_digits_append hne isDigit_paddedDigits]
  split
  next tail heq => exact absurd (hsign _ _ heq) (by decide)
  next tail heq => exact absurd (hsign _ _ heq) (by decide)
  next => simp [hread, valueOf, ofDigitChars_paddedDigits]

/-- A year with a sign has as many digits as there are. -/
theorem year_signed (negative : Bool) (y : Nat) (hrest : ∀ c, rest.head? = some c → ¬isDigit c) :
    year ((if negative then '-' else '+') :: (paddedDigits 4 y ++ rest)) =
      some (if negative then -(y : Int) else y, rest) := by
  have hlength : (paddedDigits 4 y).length ≤ (paddedDigits 4 y ++ rest).length := by simp
  have hread := digitsUpTo_append (paddedDigits_ne_nil 4 y) isDigit_paddedDigits hlength hrest
  have hblank : ∀ c ∈ ['-', '+'], ¬isBlank c := by simp [isBlank]
  cases negative with
  | true =>
    simp only [if_true, year, trimStart_cons_of_not _ (hblank '-' (by decide)), hread]
    simp [valueOf, ofDigitChars_paddedDigits]
  | false =>
    simp only [Bool.false_eq_true, if_false, year,
      trimStart_cons_of_not _ (hblank '+' (by decide)), hread]
    simp [valueOf, ofDigitChars_paddedDigits]

theorem year_yearText (y : Int) (hrest : ∀ c, rest.head? = some c → ¬isDigit c) :
    year (Moment.yearText y ++ rest) = some (y, rest) := by
  unfold Moment.yearText
  split
  next hshort =>
    simp only [Bool.and_eq_true, decide_eq_true_eq] at hshort
    rw [year_digits (by omega) hrest, Int.toNat_of_nonneg hshort.1]
  next =>
    have hvalue : (if decide (y < 0) then -(y.natAbs : Int) else y.natAbs) = y := by
      simp only [decide_eq_true_eq]
      split <;> omega
    have hread := year_signed (decide (y < 0)) y.natAbs hrest
    rw [hvalue] at hread
    simpa using hread

theorem not_isDigit_head {c : Char} (hc : ¬isDigit c) (rest : List Char) :
    ∀ d, (c :: rest).head? = some d → ¬isDigit d := by
  rintro d ⟨⟩
  exact hc

/-- The date of a moment is read. -/
theorem date_dateText (m : Moment) (hfirst : Date.firstYear ≤ m.date.year)
    (hlast : m.date.year ≤ Date.lastYear) (hrest : ∀ c, rest.head? = some c → ¬isDigit c) :
    date (m.dateText ++ rest) = some (m.date, rest) := by
  have hexists : m.date.exists? := Date.exists?_ofDayNumber _
  obtain ⟨hmonth, hmonth', hday, hday'⟩ := Date.bounds_of_exists hexists
  have hdash (tail : List Char) := not_isDigit_head (c := '-') (by decide) tail
  have hsep (tail : List Char) := separator_cons (c := '-') (by decide) tail
  simp [date, Moment.dateText, year_yearText _ (hdash _), hsep,
    field_paddedDigits (by omega) hmonth hmonth' (hdash _),
    field_paddedDigits (by omega) hday hday' hrest, hfirst, hlast, hexists]

end Date

section Time

/-- Up to nine decimals are read as nanoseconds. -/
theorem fraction_digits {width n : Nat} (hwidth : 0 < width) (hnine : width ≤ 9)
    (hn : n < 10 ^ width) (hrest : ∀ c, rest.head? = some c → ¬isDigit c) :
    fraction ('.' :: (paddedDigits width n ++ rest)) = some (n * 10 ^ (9 - width), rest) := by
  have hlength := length_paddedDigits hwidth hn
  have hread := digitsUpTo_append (paddedDigits_ne_nil width n) isDigit_paddedDigits
    (hlength.trans_le hnine) hrest
  have hdrop : rest.dropWhile isDigit = rest := by
    cases rest with
    | nil => rfl
    | cons c rest => exact List.dropWhile_cons_of_neg (hrest c rfl)
  simp [fraction, hread, hdrop, hlength, valueOf, ofDigitChars_paddedDigits, tenTo]

/-- The decimals of a second are read. -/
theorem fraction_fractionText {n : Nat} (hn : n < 1000000000) (rest : List Char) :
    fraction (Moment.fractionText n ++ 'Z' :: rest) = some (n, 'Z' :: rest) := by
  have hmark := not_isDigit_head (c := 'Z') (by decide) rest
  unfold Moment.fractionText
  split_ifs with hzero hmillis hmicros
  · subst n
    rfl
  · rw [List.cons_append, fraction_digits (by decide) (by decide) (by omega) hmark,
      show n / 1000000 * 10 ^ (9 - 3) = n by omega]
  · rw [List.cons_append, fraction_digits (by decide) (by decide) (by omega) hmark,
      show n / 1000 * 10 ^ (9 - 6) = n by omega]
  · rw [List.cons_append, fraction_digits (by decide) (by decide) (by omega) hmark, Nat.sub_self,
      Nat.pow_zero, Nat.mul_one]

/-- The time of day of a moment is read as a time of the same day, and as itself outside of leap
seconds. -/
theorem time_clockText (m : Moment) (rest : List Char) : ∃ second nanos, second < 86400 ∧
    (m.nanos < 1000000000 → second = m.secondOfDay ∧ nanos = m.nanos) ∧
    time (m.clockText ++ (Moment.fractionText m.subsecond ++ 'Z' :: rest)) =
      some ((second, nanos), 'Z' :: rest) := by
  have hday : m.secondOfDay < 86400 := by
    simp only [Moment.secondOfDay, Moment.dayLength]
    omega
  have hclock : m.clockSecond ≤ 60 := by
    unfold Moment.clockSecond
    split <;> omega
  have hsub : m.subsecond < 1000000000 := Nat.mod_lt _ (by decide)
  have hcolon (tail : List Char) := not_isDigit_head (c := ':') (by decide) tail
  have hsep (tail : List Char) := separator_cons (c := ':') (by decide) tail
  have hfraction : ∀ c, (Moment.fractionText m.subsecond ++ 'Z' :: rest).head? = some c →
      ¬isDigit c := by
    unfold Moment.fractionText
    split_ifs
    · exact not_isDigit_head (by decide) _
    all_goals exact not_isDigit_head (by decide) _
  -- A sixtieth second is kept as the one before it, with a second more of nanoseconds.
  refine ⟨m.secondOfDay / 3600 * 3600 + m.secondOfDay / 60 % 60 * 60 +
      (if m.clockSecond = 60 then 59 else m.clockSecond),
    if m.clockSecond = 60 then 1000000000 + m.subsecond else m.subsecond, ?_, ?_, ?_⟩
  · split <;> omega
  · intro hnanos
    have hleap : m.clockSecond = m.secondOfDay % 60 := by
      simp [Moment.clockSecond, Moment.inLeapSecond, hnanos.not_ge]
    have hsame : m.subsecond = m.nanos := Nat.mod_eq_of_lt hnanos
    rw [hleap, hsame, if_neg (by omega), if_neg (by omega)]
    omega
  · have hhours (tail : List Char) : field 2 0 23 (paddedDigits 2 (m.secondOfDay / 3600) ++
        ':' :: tail) = some (m.secondOfDay / 3600, ':' :: tail) :=
      field_paddedDigits (by omega) (Nat.zero_le _) (by omega) (hcolon tail)
    have hminutes (tail : List Char) : field 2 0 59 (paddedDigits 2 (m.secondOfDay / 60 % 60) ++
        ':' :: tail) = some (m.secondOfDay / 60 % 60, ':' :: tail) :=
      field_paddedDigits (by omega) (Nat.zero_le _) (by omega) (hcolon tail)
    have hseconds := field_paddedDigits (by omega) (Nat.zero_le _) hclock hfraction
    simp only [time, Moment.clockText, List.append_assoc, List.cons_append, hhours, hsep, hminutes,
      hseconds, fraction_fractionText hsub rest, Option.bind_eq_bind, Option.bind_some]
    split <;> rfl

end Time

/-- The timestamp of a moment whose year is in range is read, as the moment itself outside of leap
seconds. -/
theorem exists_read?_full (m : Moment) (hfirst : Date.firstYear ≤ m.date.year)
    (hlast : m.date.year ≤ Date.lastYear) :
    ∃ m', read? m.full = some m' ∧ (m.nanos < 1000000000 → m' = m) := by
  obtain ⟨second, nanos, hsecond, hsame, htime⟩ := time_clockText m []
  have hmark (tail : List Char) := not_isDigit_head (c := 'T') (by decide) tail
  have hmiddle (tail : List Char) : middle ('T' :: tail) = some ((), tail) := rfl
  have hoffset : offset ['Z'] = some (0, []) := rfl
  -- The second lies within the day of the date, so the moment that is read has the same year.
  have hdate : Moment.date ⟨m.date.dayNumber * Moment.dayLength + second - 0, nanos⟩ = m.date := by
    have hquotient : (m.date.dayNumber * Moment.dayLength + second - 0) / Moment.dayLength =
        m.date.dayNumber := by
      simp only [Moment.dayLength]
      omega
    rw [Moment.date, hquotient, Moment.date, Date.dayNumber_ofDayNumber]
  refine ⟨⟨m.date.dayNumber * Moment.dayLength + second - 0, nanos⟩, ?_, fun hnanos => ?_⟩
  · simp only [read?, Moment.full, String.toList_ofList, List.append_assoc, List.cons_append,
      date_dateText m hfirst hlast (hmark _), hmiddle, htime, hoffset, Option.bind_eq_bind,
      Option.bind_some, hdate]
    simp [hfirst, hlast, trimStart]
  · obtain ⟨rfl, rfl⟩ := hsame hnanos
    have hseconds : m.date.dayNumber * Moment.dayLength + m.secondOfDay - 0 = m.seconds := by
      rw [Moment.date, Date.dayNumber_ofDayNumber]
      simp only [Moment.secondOfDay, Moment.dayLength]
      omega
    rw [hseconds]

end LoopGauge.Time.Stamp

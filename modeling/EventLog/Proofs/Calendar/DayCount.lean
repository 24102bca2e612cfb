import EventLog.Calendar

set_option autoImplicit false

/-! # Dates and their numbers

The number of a date is the count of days up to it. `dayCount` counts them year by year and month by
month, and `dayCount_eq_number` says that the closed form in `Date.number` gives the same. Finding a
date by its number undoes this both ways: the date with the number of a date is that date
(`ofNumber?_number`), and every number up to the end of the calendar belongs to a date
(`exists_number_eq`). Microseconds and wall clocks correspond in the same way.

A cycle of 400 years has 146097 days. In it a century has 36524 days, four years have 1461 and a year
has 365, but for the last of each, which may have a day more. -/

namespace EventLog

/-! ## Years -/

/-- The number of days of a year. -/
def daysInYear (year : Nat) : Nat :=
  if isLeapYear year then 366 else 365

/-- The days of the first `n` years. -/
def daysOfYears : Nat → Nat
  | 0 => 0
  | n + 1 => daysOfYears n + daysInYear (n + 1)

theorem isLeapYear_iff (year : Nat) :
    isLeapYear year = true ↔ year % 4 = 0 ∧ (year % 100 ≠ 0 ∨ year % 400 = 0) := by
  simp [isLeapYear]

theorem daysBeforeYear_succ (n : Nat) :
    daysBeforeYear (n + 2) = daysBeforeYear (n + 1) + daysInYear (n + 1) := by
  have hl := isLeapYear_iff (n + 1)
  have hb : n / 100 ≤ 365 * n := by omega
  show 365 * (n + 1) + (n + 1) / 4 - (n + 1) / 100 + (n + 1) / 400
    = 365 * n + n / 4 - n / 100 + n / 400 + daysInYear (n + 1)
  unfold daysInYear
  by_cases h4 : (n + 1) % 4 = 0
  · rw [Nat.succ_div_of_mod_eq_zero h4]
    by_cases h100 : (n + 1) % 100 = 0
    · rw [Nat.succ_div_of_mod_eq_zero h100]
      by_cases h400 : (n + 1) % 400 = 0
      · rw [Nat.succ_div_of_mod_eq_zero h400, if_pos (hl.2 ⟨h4, Or.inr h400⟩)]
        omega
      · rw [Nat.succ_div_of_mod_ne_zero h400, if_neg fun h => (hl.1 h).2.elim (· h100) h400]
        omega
    · have h400 : (n + 1) % 400 ≠ 0 := by omega
      rw [Nat.succ_div_of_mod_ne_zero h100, Nat.succ_div_of_mod_ne_zero h400,
        if_pos (hl.2 ⟨h4, Or.inl h100⟩)]
      omega
  · have h100 : (n + 1) % 100 ≠ 0 := by omega
    have h400 : (n + 1) % 400 ≠ 0 := by omega
    rw [Nat.succ_div_of_mod_ne_zero h4, Nat.succ_div_of_mod_ne_zero h100,
      Nat.succ_div_of_mod_ne_zero h400, if_neg fun h => h4 (hl.1 h).1]
    omega

/-- The closed form counts the days year by year. -/
theorem daysBeforeYear_eq (n : Nat) : daysBeforeYear (n + 1) = daysOfYears n := by
  induction n with
  | zero => rfl
  | succ n ih => rw [daysBeforeYear_succ, ih, daysOfYears]

theorem daysOfYears_mono {m n : Nat} (h : m ≤ n) : daysOfYears m ≤ daysOfYears n := by
  induction h with
  | refl => exact Nat.le_refl _
  | step _ ih => exact Nat.le_trans ih (Nat.le_add_right _ _)

/-- The days before a year, from its place in the cycle of 400 years. -/
theorem daysBeforeYear_of_cycle (q c l k : Nat) (hc : c ≤ 3) (hl : l ≤ 24) (hk : k ≤ 3) :
    daysBeforeYear (q * 400 + c * 100 + l * 4 + k + 1)
      = 146097 * q + 36524 * c + 1461 * l + 365 * k := by
  have h4 : (q * 400 + c * 100 + l * 4 + k) / 4 = q * 100 + c * 25 + l := by omega
  have h100 : (q * 400 + c * 100 + l * 4 + k) / 100 = q * 4 + c := by omega
  have h400 : (q * 400 + c * 100 + l * 4 + k) / 400 = q := by omega
  show 365 * (q * 400 + c * 100 + l * 4 + k) + (q * 400 + c * 100 + l * 4 + k) / 4
    - (q * 400 + c * 100 + l * 4 + k) / 100 + (q * 400 + c * 100 + l * 4 + k) / 400 = _
  rw [h4, h100, h400]
  omega

/-- The day with index `n` lies in the year that is found for it. -/
theorem daysBeforeYear_yearOfDay (n : Nat) :
    daysBeforeYear (yearOfDay n) ≤ n
      ∧ n < daysBeforeYear (yearOfDay n) + daysInYear (yearOfDay n) := by
  simp only [yearOfDay]
  generalize hq : n / 146097 = q
  generalize hc : min 3 (n % 146097 / 36524) = c
  generalize hl : (n % 146097 - c * 36524) / 1461 = l
  generalize hk : min 3 ((n % 146097 - c * 36524) % 1461 / 365) = k
  -- the century and its limits, from which the rest follows step by step
  have hc' : c ≤ 3 ∧ c * 36524 ≤ n % 146097 ∧ (c < 3 → n % 146097 < (c + 1) * 36524) := by omega
  have hl' : l ≤ 24 := by omega
  have hk' : k ≤ 3 := by omega
  rw [daysBeforeYear_of_cycle q c l k hc'.1 hl' hk']
  have hleap := isLeapYear_iff (q * 400 + c * 100 + l * 4 + k + 1)
  constructor
  · omega
  · unfold daysInYear
    split
    · omega
    · -- the last day of four years is left over only if one of them is a leap year
      rename_i h
      rw [hleap] at h
      omega

/-- No other year holds the day with index `n`. -/
theorem yearOfDay_eq (n year : Nat) (hy : 1 ≤ year) (hl : daysBeforeYear year ≤ n)
    (hu : n < daysBeforeYear year + daysInYear year) : yearOfDay n = year := by
  obtain ⟨y, rfl⟩ : ∃ y, year = y + 1 := ⟨year - 1, by omega⟩
  obtain ⟨z, hz⟩ : ∃ z, yearOfDay n = z + 1 := ⟨_, rfl⟩
  obtain ⟨hl', hu'⟩ := daysBeforeYear_yearOfDay n
  rw [hz, daysBeforeYear_eq] at hl' hu'
  rw [daysBeforeYear_eq] at hl hu
  -- of two different years one ends before the other begins
  rcases Nat.lt_trichotomy y z with h | h | h
  · have := daysOfYears_mono h
    rw [daysOfYears] at this
    omega
  · rw [hz, h]
  · have := daysOfYears_mono h
    rw [daysOfYears] at this
    omega

/-! ## Months -/

/-- The days of the first `n` months of a year. -/
def daysOfMonths (year : Nat) : Nat → Nat
  | 0 => 0
  | n + 1 => daysOfMonths year n + daysInMonth year (n + 1)

theorem daysOfMonths_mono (year : Nat) {m n : Nat} (h : m ≤ n) :
    daysOfMonths year m ≤ daysOfMonths year n := by
  induction h with
  | refl => exact Nat.le_refl _
  | step _ ih => exact Nat.le_trans ih (Nat.le_add_right _ _)

theorem foldr_take_succ (lengths : List Nat) (n : Nat) :
    (lengths.take (n + 1)).foldr (· + ·) 0
      = (lengths.take n).foldr (· + ·) 0 + lengths.getD n 0 := by
  induction lengths generalizing n with
  | nil => simp
  | cons l rest ih =>
      cases n with
      | zero => simp
      | succ n =>
          have h := ih n
          simp only [List.take_succ_cons, List.foldr_cons, List.getD_cons_succ] at h ⊢
          omega

theorem daysBeforeMonth_eq (year n : Nat) : daysBeforeMonth year (n + 1) = daysOfMonths year n := by
  induction n with
  | zero => simp [daysBeforeMonth, daysOfMonths]
  | succ n ih =>
      rw [daysOfMonths, ← ih, daysBeforeMonth, daysBeforeMonth, daysInMonth]
      exact foldr_take_succ (monthLengths year) n

theorem foldr_monthLengths (year : Nat) :
    (monthLengths year).foldr (· + ·) 0 = daysInYear year := by
  unfold monthLengths daysInYear
  split <;> rfl

/-- The day with index `n` lies in the month that is found for it. -/
theorem monthOfDay_spec (lengths : List Nat) (month n : Nat)
    (h : n < lengths.foldr (· + ·) 0) :
    ∃ i day, monthOfDay month n lengths = (month + i, day + 1) ∧ i < lengths.length
      ∧ day < lengths.getD i 0 ∧ (lengths.take i).foldr (· + ·) 0 + day = n := by
  induction lengths generalizing month n with
  | nil => simp at h
  | cons l rest ih =>
      rw [monthOfDay]
      by_cases hn : n < l
      · rw [if_pos hn]
        exact ⟨0, n, rfl, by simp, by simpa using hn, by simp⟩
      · rw [List.foldr_cons] at h
        obtain ⟨i, day, hm, hi, hd, hs⟩ := ih (month + 1) (n - l) (by omega)
        refine ⟨i + 1, day, ?_, by simpa using hi, by simpa using hd, ?_⟩
        · rw [if_neg hn, hm, Nat.add_assoc, Nat.add_comm 1 i]
        · rw [List.take_succ_cons, List.foldr_cons]
          omega

/-- The month of a day is found from the days before it. -/
theorem monthOfDay_add (lengths : List Nat) (month i day : Nat) (h : day < lengths.getD i 0) :
    monthOfDay month ((lengths.take i).foldr (· + ·) 0 + day) lengths = (month + i, day + 1) := by
  induction lengths generalizing month i with
  | nil => simp at h
  | cons l rest ih =>
      cases i with
      | zero =>
          have hd : day < l := by simpa using h
          simp [monthOfDay, hd]
      | succ i =>
          have hd : day < rest.getD i 0 := by simpa using h
          have hr := ih (month + 1) i hd
          have hn : ¬ l + (rest.take i).foldr (· + ·) 0 + day < l := by omega
          have hs : l + (rest.take i).foldr (· + ·) 0 + day - l
              = (rest.take i).foldr (· + ·) 0 + day := by omega
          rw [List.take_succ_cons, List.foldr_cons, monthOfDay, if_neg hn, hs, hr, Nat.add_assoc,
            Nat.add_comm 1 i]

/-! ## Dates -/

/-- The days up to and including a day of the calendar, counted by years and months. -/
def dayCount (year month day : Nat) : Nat :=
  daysOfYears (year - 1) + daysOfMonths year (month - 1) + day

namespace Date

theorem dayCount_eq_number (d : Date) : dayCount d.year d.month d.day = d.number := by
  obtain ⟨hy, -, hm, -⟩ := d.valid
  obtain ⟨y, hy⟩ : ∃ y, d.year = y + 1 := ⟨d.year - 1, by omega⟩
  obtain ⟨m, hm⟩ : ∃ m, d.month = m + 1 := ⟨d.month - 1, by omega⟩
  rw [dayCount, number, hy, hm, daysBeforeYear_eq, daysBeforeMonth_eq]
  rfl

theorem number_pos (d : Date) : 1 ≤ d.number := by
  have := d.valid
  rw [number]
  omega

/-- A date lies within its year. -/
theorem daysBeforeMonth_add_day_le (d : Date) :
    daysBeforeMonth d.year d.month + d.day ≤ daysInYear d.year := by
  obtain ⟨-, -, hm, hm', -, hd⟩ := d.valid
  obtain ⟨m, hm⟩ : ∃ m, d.month = m + 1 := ⟨d.month - 1, by omega⟩
  have hlast : daysOfMonths d.year 12 = daysInYear d.year := by
    rw [← foldr_monthLengths, ← daysBeforeMonth_eq]
    rfl
  rw [hm] at hm' hd
  have hle := daysOfMonths_mono d.year hm'
  rw [hlast, daysOfMonths] at hle
  rw [hm, daysBeforeMonth_eq]
  omega

/-- The date with the number of a date is that date. -/
theorem ofNumber?_number (d : Date) : ofNumber? d.number = some d := by
  have hle := d.daysBeforeMonth_add_day_le
  obtain ⟨hy, -, hm, -, hd, hd'⟩ := d.valid
  obtain ⟨n, hn⟩ : ∃ n, d.number = n + 1 := ⟨d.number - 1, by have := d.number_pos; omega⟩
  rw [number] at hn
  have hyear : yearOfDay n = d.year := yearOfDay_eq n d.year hy (by omega) (by omega)
  have hmonth := monthOfDay_add (monthLengths d.year) 1 (d.month - 1) (d.day - 1)
    (by rw [daysInMonth] at hd'; omega)
  have hrest : n - daysBeforeYear d.year = daysBeforeMonth d.year d.month + (d.day - 1) := by omega
  rw [number, hn, ofNumber?, hyear, hrest, daysBeforeMonth, hmonth]
  have h1 : 1 + (d.month - 1) = d.month := by omega
  have h2 : d.day - 1 + 1 = d.day := by omega
  simp only [h1, h2]
  exact ofParts?_self d

/-- Every number from 1 to the end of the calendar is the number of a date. -/
theorem exists_number_eq (n : Nat) (h : 1 ≤ n) (hu : n ≤ 3652059) : ∃ d : Date, d.number = n := by
  obtain ⟨n, rfl⟩ : ∃ k, n = k + 1 := ⟨n - 1, by omega⟩
  obtain ⟨hl, hr⟩ := daysBeforeYear_yearOfDay n
  obtain ⟨y, hy⟩ : ∃ y, yearOfDay n = y + 1 := ⟨_, rfl⟩
  rw [hy] at hl hr
  -- the year 10000 begins too late
  have hlast : y < 9999 := by
    refine Nat.lt_of_not_le fun hge => ?_
    have hmono := daysOfYears_mono hge
    rw [← daysBeforeYear_eq, ← daysBeforeYear_eq] at hmono
    have h9999 : daysBeforeYear (9999 + 1) = 3652059 := rfl
    omega
  obtain ⟨i, day, -, hi, hd, hs⟩ := monthOfDay_spec (monthLengths (y + 1)) 1
    (n - daysBeforeYear (y + 1)) (by rw [foldr_monthLengths]; omega)
  have hi' : i < 12 := hi
  refine ⟨⟨y + 1, i + 1, day + 1, by omega, by omega, by omega, by omega, by omega, hd⟩, ?_⟩
  show daysBeforeYear (y + 1) + daysBeforeMonth (y + 1) (i + 1) + (day + 1) = n + 1
  rw [daysBeforeMonth, Nat.add_sub_cancel]
  omega

/-- A date that is found by a number has that number. -/
theorem number_of_ofNumber? {n : Nat} {d : Date} (h : ofNumber? n = some d) : d.number = n := by
  cases n with
  | zero => cases h
  | succ n =>
      obtain ⟨hl, hr⟩ := daysBeforeYear_yearOfDay n
      obtain ⟨i, day, hm, -, -, hs⟩ := monthOfDay_spec (monthLengths (yearOfDay n)) 1
        (n - daysBeforeYear (yearOfDay n)) (by rw [foldr_monthLengths]; omega)
      rw [ofNumber?] at h
      dsimp only at h
      rw [hm] at h
      dsimp only [ofParts?] at h
      split at h
      · obtain rfl := Option.some.inj h
        show daysBeforeYear (yearOfDay n) + daysBeforeMonth (yearOfDay n) (1 + i) + (day + 1) = n + 1
        rw [daysBeforeMonth, Nat.add_sub_cancel_left]
        omega
      · cases h

/-- No date has a number beyond the end of the calendar. -/
theorem number_le (d : Date) : d.number ≤ 3652059 := by
  have hle := d.daysBeforeMonth_add_day_le
  obtain ⟨hy, hy', -⟩ := d.valid
  obtain ⟨y, hyear⟩ : ∃ y, d.year = y + 1 := ⟨d.year - 1, by omega⟩
  have hmono := daysOfYears_mono (show y + 1 ≤ 9999 by omega)
  have hend : daysOfYears 9999 = 3652059 := (daysBeforeYear_eq 9999).symm
  rw [hend, daysOfYears] at hmono
  rw [number, hyear, daysBeforeYear_eq, ← hyear]
  rw [hyear] at hle ⊢
  omega

end Date

/-! ## Wall clocks -/

namespace WallClock

/-- Whole days of microseconds give the date, and the rest gives the time of day. -/
theorem micros_divMod (w : WallClock) :
    w.micros / TimeOfDay.microsPerDay + 1 = w.date.number
      ∧ w.micros % TimeOfDay.microsPerDay = w.time.micros := by
  have hpos := w.date.number_pos
  have ht := w.time.micros_lt
  simp only [micros, TimeOfDay.microsPerDay] at ht ⊢
  omega

/-- The wall clock at the microsecond of a wall clock is that wall clock. -/
theorem ofMicros?_micros (w : WallClock) : ofMicros? w.micros = some w := by
  obtain ⟨hday, htime⟩ := w.micros_divMod
  show (Date.ofNumber? (w.micros / TimeOfDay.microsPerDay + 1)).map _ = some w
  rw [hday, Date.ofNumber?_number, htime, TimeOfDay.ofMicros_micros]
  rfl

/-- Every microsecond of the calendar is that of a wall clock. -/
theorem exists_micros_eq (i : Int) (h : 0 ≤ i) (hu : i ≤ lastMicros) :
    ∃ w : WallClock, (w.micros : Int) = i := by
  obtain ⟨n, rfl⟩ := Int.eq_ofNat_of_zero_le h
  have hn : n / TimeOfDay.microsPerDay + 1 ≤ 3652059 := by
    simp only [lastMicros, TimeOfDay.microsPerDay] at hu ⊢
    omega
  obtain ⟨d, hd⟩ := Date.exists_number_eq _ (Nat.le_add_left 1 _) hn
  refine ⟨⟨d, TimeOfDay.ofMicros (n % TimeOfDay.microsPerDay)⟩, ?_⟩
  rw [micros, hd, TimeOfDay.micros_ofMicros _ (Nat.mod_lt _ (by decide)), Nat.add_sub_cancel]
  simp only [TimeOfDay.microsPerDay]
  omega

/-- A wall clock that is found by a microsecond is at that microsecond. -/
theorem micros_of_ofMicros? {i : Int} {w : WallClock} (h : ofMicros? i = some w) :
    (w.micros : Int) = i := by
  cases i with
  | negSucc n => cases h
  | ofNat n =>
      obtain ⟨d, hd, rfl⟩ := Option.map_eq_some_iff.1 h
      rw [micros, Date.number_of_ofNumber? hd,
        TimeOfDay.micros_ofMicros _ (Nat.mod_lt _ (by decide)), Nat.add_sub_cancel]
      simp only [TimeOfDay.microsPerDay, Int.ofNat_eq_natCast]
      omega

/-- Whether the calendar has a day for a microsecond. -/
def InCalendar (i : Int) : Prop :=
  0 ≤ i ∧ i ≤ lastMicros

instance (i : Int) : Decidable (InCalendar i) :=
  inferInstanceAs (Decidable (_ ∧ _))

theorem inCalendar_micros (w : WallClock) : InCalendar w.micros := by
  have hd := w.date.number_le
  have ht := w.time.micros_lt
  simp only [InCalendar, micros, lastMicros, TimeOfDay.microsPerDay] at ht ⊢
  omega

/-- There is a wall clock for each microsecond of the calendar, and for no other one. -/
theorem isSome_ofMicros? (i : Int) : (ofMicros? i).isSome ↔ InCalendar i := by
  constructor
  · intro h
    obtain ⟨w, hw⟩ := Option.isSome_iff_exists.1 h
    exact micros_of_ofMicros? hw ▸ w.inCalendar_micros
  · rintro ⟨hlow, hhigh⟩
    obtain ⟨w, rfl⟩ := exists_micros_eq i hlow hhigh
    rw [w.ofMicros?_micros]
    rfl

/-- In universal time a wall clock is set to its instant. -/
theorem later?_neg (w : WallClock) (ahead : Int) : w.later? (-ahead) = ofMicros? (w.instant ahead) := by
  have h : (w.micros : Int) + -ahead * 1000000 = w.instant ahead := by
    rw [instant]
    omega
  rw [later?, h]

end WallClock
end EventLog

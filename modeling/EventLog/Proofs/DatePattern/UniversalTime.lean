import EventLog.DatePattern
import EventLog.Proofs.Calendar.DayCount

set_option autoImplicit false

/-! # Dates in universal time

A pattern with the mark for universal time shows the instant that a date denotes, and nothing else of
it: not the clock it was read from, nor the zone of that clock. The numbers that are shown can be
counted back to the instant (`universal_shows_instant`). So dates of one instant look the same in
universal time, and they look like the wall clock of that instant in the zone of universal time does
on its own clock. -/

namespace EventLog

/-! ## Numerals -/

namespace Text

/-- The number that a decimal numeral stands for. -/
def toNat (t : Text) : Nat :=
  Nat.ofDigitChars 10 t 0

@[simp] theorem toNat_ofNat (n : Nat) : toNat (ofNat n) = n :=
  Nat.ofDigitChars_toDigits (by decide) (by decide)

/-- Zeros in front do not count. -/
@[simp] theorem toNat_ofNatPadded (width n : Nat) : toNat (ofNatPadded width n) = n := by
  rw [toNat, ofNatPadded, padLeft, Nat.ofDigitChars_append, Nat.ofDigitChars_replicate_zero,
    Nat.mul_zero]
  exact toNat_ofNat n

end Text

namespace DatePattern

/-! ## Patterns of one field -/

/-- A piece with `shown` standing for the fields. -/
def Piece.filled (shown : DateField → Text) : Piece → Text
  | field f => shown f
  | text t => t

theorem pieces_spelling (f : DateField) : pieces f.spelling = [.field f] := by
  cases f <;> decide

theorem render_spelling (r : Reading) (f : DateField) :
    render (some r) f.spelling = DateField.text r f := by
  rw [render, pieces_spelling]
  simp [Piece.shown]

/-- A reading fills in the fields of a pattern. -/
theorem render_eq_filled (r : Reading) (pattern : Text) :
    render (some r) pattern = (pieces pattern).flatMap (Piece.filled (DateField.text r)) := by
  have h : Piece.filled (DateField.text r) = Piece.shown (some r) := by
    funext piece
    cases piece <;> rfl
  rw [h, render]

/-! ## The instant that is shown -/

/-- The milliseconds since the midnight before the first day of the calendar, counted from the numerals
    that are shown for year, month, day, hour, minute, second and millisecond. -/
def millisShown (shown : DateField → Text) : Nat :=
  let number (f : DateField) := (shown f).toNat
  let days := dayCount (number .yearFull) (number .monthPadded) (number .dayPadded) - 1
  (((days * 24 + number .hourPadded) * 60 + number .minutePadded) * 60 + number .secondPadded) * 1000
    + number .milli

/-- What a wall clock shows can be counted back to its milliseconds. -/
theorem millisShown_text (r : Reading) : millisShown (DateField.text r) = r.clock.micros / 1000 := by
  have hc := r.clock.date.dayCount_eq_number
  simp only [millisShown, DateField.text, DateField.padded, Text.toNat_ofNat,
    Text.toNat_ofNatPadded, hc, WallClock.milli, WallClock.micros, TimeOfDay.micros,
    TimeOfDay.microsPerDay]
  omega

/-- The day of the week of a wall clock, from its microseconds. -/
theorem weekday_eq (w : WallClock) :
    w.date.weekday = (w.micros / TimeOfDay.microsPerDay + 1) % 7 := by
  rw [w.micros_divMod.1, Date.weekday]

/-! ## The mark for universal time -/

/-- A text that is not empty and no name stands for itself. -/
theorem resolve_of_not_mem (m : Text) (hm : m ≠ []) (hn : m ∉ named.map (·.1)) :
    resolve (some m) = m := by
  obtain ⟨c, rest, rfl⟩ := List.exists_cons_of_ne_nil hm
  have hl : named.lookup (c :: rest) = none := by
    rw [List.lookup_eq_none_iff]
    intro p hp
    rw [bne_iff_ne]
    intro he
    exact hn (List.mem_map.2 ⟨p, hp, he.symm⟩)
  rw [resolve, hl, Option.getD_none]

theorem mode_universalMark (m : Text) :
    mode (resolve (some (universalMark ++ m))) = (.universal, m) := by
  have hn : universalMark ++ m ∉ named.map (·.1) := by
    intro h
    -- no name starts with the letter of the mark
    have hd : ∀ name ∈ named.map (·.1), name.head? ≠ some 'U' := by decide
    exact hd _ h rfl
  have hp : universalMark.isPrefixOf (universalMark ++ m) = true :=
    List.isPrefixOf_iff_prefix.2 (List.prefix_append _ _)
  rw [resolve_of_not_mem _ (by simp [universalMark]) hn, mode, if_pos hp, List.drop_left]

/-- What is shown depends on a date by what is read of it. -/
theorem format_eq (localZone : LocalZone) (t : Timestamp) (mask : Option Text) :
    format localZone t mask
      = render (t.read? (mode (resolve mask)).1 localZone) (mode (resolve mask)).2 := rfl

theorem format_universal (localZone : LocalZone) (w : WallClock) (s : Int) (name : Option Text)
    (m : Text) :
    format localZone (.zoned w ⟨some s, name⟩) (some (universalMark ++ m))
      = render (Timestamp.readUniversal? w s) m := by
  rw [format, mode_universalMark]
  rfl

/-- A pattern that has no name and no mark is shown on the own clock. -/
theorem format_own (localZone : LocalZone) (t : Timestamp) (m : Text) (hm : m ≠ [])
    (hn : m ∉ named.map (·.1)) (hp : ¬ universalMark <+: m) :
    format localZone t (some m) = render (t.read? .own localZone) m := by
  have hmode : universalMark.isPrefixOf m = false := by
    rw [← Bool.not_eq_true, List.isPrefixOf_iff_prefix]
    exact hp
  rw [format, resolve_of_not_mem m hm hn, mode, hmode]
  rfl

theorem readUniversal?_eq (w : WallClock) (s : Int) :
    Timestamp.readUniversal? w s
      = (WallClock.ofMicros? (w.instant s)).map fun u => ⟨u, 0, "UTC"⟩ := by
  rw [Timestamp.readUniversal?, w.later?_neg]

/-- A wall clock that is `s` seconds ahead, shown by patterns with the mark for universal time:

    1. Wall clocks of the same instant are shown alike by every pattern.
    2. If the calendar has a day for the instant, each field is shown as if it stood alone. The numbers
       shown count the milliseconds up to the instant, the day of the week is that of the instant, where
       the first day is a Monday, and zone and offset are those of universal time.
    3. Then there is also a wall clock for the instant. In the zone of universal time it is shown the
       same way by each pattern without the mark that is not empty and no name. -/
theorem universal_shows_instant (localZone : LocalZone) (w : WallClock) (s : Int)
    (name : Option Text) :
    let shown (m : Text) := format localZone (.zoned w ⟨some s, name⟩) (some (universalMark ++ m))
    let field (f : DateField) := shown f.spelling
    (∀ (w' : WallClock) (s' : Int) (name' : Option Text), w'.instant s' = w.instant s → ∀ m,
        format localZone (.zoned w' ⟨some s', name'⟩) (some (universalMark ++ m)) = shown m)
      ∧ (0 ≤ w.instant s → w.instant s ≤ WallClock.lastMicros →
        ((∀ m, shown m = (pieces m).flatMap (Piece.filled field))
          ∧ (millisShown field : Int) = w.instant s / 1000
          ∧ (let day := DateField.weekdayNames.getD
              ((w.instant s / TimeOfDay.microsPerDay + 1).toNat % 7) []
            field .weekdayFull = day ∧ field .weekdayShort = DateField.short day)
          ∧ field .zone = "UTC" ∧ field .offset = "+0000")
        ∧ ∃ u : WallClock, (u.micros : Int) = w.instant s
          ∧ ∀ m, m ≠ [] → m ∉ named.map (·.1) → ¬ universalMark <+: m →
            shown m = format localZone (.zoned u ⟨some 0, some "UTC"⟩) (some m)) := by
  intro shown field
  have hshown : ∀ m, shown m = render (Timestamp.readUniversal? w s) m :=
    format_universal localZone w s name
  constructor
  · intro w' s' name' hi m
    rw [hshown, format_universal, readUniversal?_eq, readUniversal?_eq, hi]
  · intro hlow hhigh
    obtain ⟨u, hu⟩ := WallClock.exists_micros_eq (w.instant s) hlow hhigh
    have hread : Timestamp.readUniversal? w s = some ⟨u, 0, "UTC"⟩ := by
      rw [readUniversal?_eq, ← hu, u.ofMicros?_micros]
      rfl
    have hrender : ∀ m, shown m = render (some ⟨u, 0, "UTC"⟩) m := by
      intro m
      rw [hshown, hread]
    have hfield : field = DateField.text ⟨u, 0, "UTC"⟩ := by
      funext f
      exact (hrender f.spelling).trans (render_spelling _ f)
    refine ⟨⟨?_, ?_, ?_, ?_, ?_⟩, u, hu, ?_⟩
    · intro m
      rw [hrender, render_eq_filled, hfield]
    · rw [hfield, millisShown_text, ← hu]
      exact Int.natCast_ediv u.micros 1000
    · have hday : u.date.weekday
          = (w.instant s / TimeOfDay.microsPerDay + 1).toNat % 7 := by
        rw [weekday_eq, ← hu]
        rfl
      rw [hfield, ← hday]
      exact ⟨rfl, rfl⟩
    · rw [hfield]
      rfl
    · have hzero : DateField.offsetText 0 = "+0000".toList := by decide
      rw [hfield]
      exact hzero
    · intro m hm hn hp
      have habbr : Zone.abbreviation "UTC" = "UTC".toList := by decide
      rw [hrender, format_own localZone _ m hm hn hp]
      show _ = render (some ⟨u, 0, Zone.abbreviation "UTC"⟩) m
      rw [habbr]

/-- A clock that is one second behind shows the end of 28 February; in universal time that is the start
    of a leap day. -/
theorem universal_shows_leap_day :
    let w : WallClock := ⟨⟨2024, 2, 28, by decide⟩, ⟨23, 59, 59, 999999, by decide⟩⟩
    let u : WallClock := ⟨⟨2024, 2, 29, by decide⟩, ⟨0, 0, 0, 999999, by decide⟩⟩
    let shown (m : Text) :=
      format .universal (.zoned w ⟨some (-1), none⟩) (some (universalMark ++ m))
    (0 ≤ w.instant (-1) ∧ w.instant (-1) ≤ WallClock.lastMicros)
      ∧ (millisShown fun f => shown f.spelling : Int) = w.instant (-1) / 1000
      ∧ (shown "Z" = "UTC" ∧ shown "o" = "+0000")
      ∧ ∀ m, format .universal (.zoned u ⟨some 0, some "UTC"⟩) (some (universalMark ++ m))
          = shown m := by
  intro w u shown
  have hr : 0 ≤ w.instant (-1) ∧ w.instant (-1) ≤ WallClock.lastMicros := by decide
  obtain ⟨hsame, hrange⟩ := universal_shows_instant .universal w (-1) none
  obtain ⟨⟨-, hmillis, -, hzone, hoffset⟩, -⟩ := hrange hr.1 hr.2
  exact ⟨hr, hmillis, ⟨hzone, hoffset⟩, hsame u 0 (some "UTC") (by decide)⟩

end DatePattern
end EventLog

import EventLog.Proofs.DatePattern.Decoding
import EventLog.Proofs.DatePattern.Readable

set_option autoImplicit false

/-! # Dates in local time

A wall clock without a zone is a local one: it looks like the same clock in a zone with the offset and the
name of the local zone. This fails only at the ends of the calendar, where the offset of a local clock is
not found, and there only for patterns that show the difference (`local_clock_like_zoned`).

A number of milliseconds becomes a local clock too before it is shown. In universal time it is converted
back, and nothing is left of the local zone: wherever the number can be read at all, the clock of its
instant is shown (`universal_number_like_instant`). -/

namespace EventLog

/-! ## What cannot be read is seen -/

namespace Zone

/-- An abbreviation consists of the characters that are kept. -/
theorem isKept_of_mem_abbreviation {name : Text} {c : Char} (h : c ∈ abbreviation name) :
    isKept c = true := by
  unfold abbreviation at h
  split at h
  · exact List.of_mem_filter h
  · cases h

end Zone

namespace DateField

/-- The mark for what cannot be read is not part of what a field shows, unless it is in the zone. -/
theorem question_not_mem_text {r : Reading} (hz : '?' ∉ r.zone) (f : DateField) :
    '?' ∉ f.text r := by
  have hnames : ∀ names : List Text, (∀ t ∈ names, '?' ∉ t) → ∀ i, '?' ∉ names.getD i [] := by
    intro names h i
    rw [List.getD_eq_getElem?_getD]
    cases hi : names[i]? with
    | none => exact List.not_mem_nil
    | some t => exact h t (List.mem_of_getElem? hi)
  have hweekday := hnames weekdayNames (by decide) r.clock.date.weekday
  have hmonth := hnames monthNames (by decide) (r.clock.date.month - 1)
  have hhalf : ∀ am pm : Text, '?' ∉ am → '?' ∉ pm →
      '?' ∉ if r.clock.time.hour < 12 then am else pm := fun am pm ha hp => by
    split <;> assumption
  have hdigit : ∀ n, '?' ∉ Text.ofNat n := fun n h =>
    absurd (Text.isDigit_of_mem_ofNat h) (by decide)
  have hpadded : ∀ width n, '?' ∉ Text.ofNatPadded width n := fun width n h =>
    absurd (Text.isDigit_of_mem_ofNatPadded h) (by decide)
  cases f
  case weekdayShort => exact mt List.mem_of_mem_take hweekday
  case weekdayFull => exact hweekday
  case monthShort => exact mt List.mem_of_mem_take hmonth
  case monthFull => exact hmonth
  case yearShort => exact mt List.mem_of_mem_drop (hdigit _)
  case halfInitial => exact hhalf "a" "p" (by decide) (by decide)
  case half => exact hhalf "am" "pm" (by decide) (by decide)
  case halfInitialCapital => exact hhalf "A" "P" (by decide) (by decide)
  case halfCapital => exact hhalf "AM" "PM" (by decide) (by decide)
  case zone => exact hz
  case offset =>
    rw [text, offsetText, List.mem_cons]
    rintro (h | h)
    · split at h <;> cases h
    · exact hpadded _ _ h
  case dayPadded | monthPadded | dialHourPadded | hourPadded | minutePadded | secondPadded =>
    exact hpadded _ _
  case day | month | yearFull | dialHour | hour | minute | second | milli =>
    exact hdigit _

end DateField

namespace DatePattern

/-- Each field of a date that cannot be read adds a question mark. -/
theorem count_question_shown {r : Reading} (hz : '?' ∉ r.zone) (ps : List Piece) :
    (ps.flatMap (Piece.shown none)).count '?'
      = (ps.flatMap (Piece.shown (some r))).count '?' + (fieldsOf ps).length := by
  induction ps with
  | nil => rfl
  | cons piece rest ih =>
      rw [List.flatMap_cons, List.flatMap_cons, List.count_append, List.count_append, ih]
      cases piece with
      | text t =>
          show t.count '?' + _ = t.count '?' + _ + (fieldsOf rest).length
          omega
      | field f =>
          have hf : (f.text r).count '?' = 0 :=
            List.count_eq_zero.2 (DateField.question_not_mem_text hz f)
          show 1 + _ = (f.text r).count '?' + _ + ((fieldsOf rest).length + 1)
          omega

/-- A date that can be read looks like one that cannot just if the pattern has no field. -/
theorem render_some_eq_none_iff {r : Reading} (hz : '?' ∉ r.zone) (pattern : Text) :
    render none pattern = render (some r) pattern ↔ fieldsOf (pieces pattern) = [] := by
  constructor
  · intro h
    have hcount := count_question_shown hz (pieces pattern)
    rw [← render, ← render, h] at hcount
    exact List.eq_nil_of_length_eq_zero (by omega)
  · intro h
    rw [render, render]
    refine List.flatMap_congr fun piece hpiece => ?_
    cases piece with
    | text t => rfl
    | field f =>
        have hf := mem_fieldsOf.2 hpiece
        rw [h] at hf
        cases hf

end DatePattern

/-! ## Local clocks -/

namespace Timestamp

theorem hasLocalOffset_iff (zone : LocalZone) (w : WallClock) :
    hasLocalOffset zone w = true
      ↔ 2 ≤ w.date.number ∧ w.micros + zone.seconds.natAbs * 1000000 ≤ WallClock.lastMicros := by
  rw [hasLocalOffset, Bool.and_eq_true, decide_eq_true_eq, decide_eq_true_eq]

/-- A local clock is read like the same clock in the local zone, if its offset can be found. -/
theorem readClock?_none (mode : ClockMode) (here elsewhere : LocalZone) (w : WallClock) :
    readClock? mode here w none
      = if hasLocalOffset here w = true then readClock? mode elsewhere w (some here.toZone)
        else none := by
  cases mode <;> rfl

/-- A clock in the local zone cannot be read just if the calendar has no day for it in universal time, and
    it is shown there. -/
theorem readClock?_toZone_eq_none_iff (mode : ClockMode) (here elsewhere : LocalZone) (w : WallClock) :
    readClock? mode elsewhere w (some here.toZone) = none
      ↔ mode = .universal ∧ ¬ WallClock.InCalendar (w.instant here.seconds) := by
  rw [readClock?_eq_none_iff]
  constructor
  · intro h
    cases h with
    | zoneInstant hm h => exact ⟨hm, h⟩
  · rintro ⟨hm, h⟩
    exact .zoneInstant hm h

/-- The zone that is shown with a clock in a zone is an abbreviation. -/
theorem question_not_mem_zone {mode : ClockMode} {localZone : LocalZone} {w : WallClock} {z : Zone}
    {ahead : Int} (hz : z.offset = some ahead) {r : Reading}
    (h : readClock? mode localZone w (some z) = some r) : '?' ∉ r.zone := by
  obtain ⟨offset, name⟩ := z
  obtain rfl : offset = some ahead := hz
  cases mode with
  | own =>
      obtain rfl := Option.some.inj h
      intro hm
      exact absurd (Zone.isKept_of_mem_abbreviation hm) (by decide)
  | universal =>
      rw [(readUniversal?_zone h).2]
      decide

end Timestamp

namespace DatePattern

/-- A local clock is shown like the same clock in a zone with the offset and the name of the local zone,
    wherever that one is shown, just if one of these holds:

    1. The offset of the local clock can be found: it is not on the first day of the calendar, and not
       within the offset of its end.
    2. The pattern has no field.
    3. The pattern shows universal time, and the calendar has no day for the clock there, so that neither of
       the two can be read. -/
theorem local_clock_like_zoned (here elsewhere : LocalZone) (w : WallClock) (mask : Option Text) :
    let clockMode := (mode (resolve mask)).1
    let pattern := (mode (resolve mask)).2
    format here (.clock w) mask = format elsewhere (.zoned w here.toZone) mask
      ↔ (2 ≤ w.date.number ∧ w.micros + here.seconds.natAbs * 1000000 ≤ WallClock.lastMicros)
        ∨ fieldsOf (pieces pattern) = []
        ∨ (clockMode = .universal ∧ ¬ WallClock.InCalendar (w.instant here.seconds)) := by
  intro clockMode pattern
  have hlocal : format here (.clock w) mask
      = render (Timestamp.readClock? clockMode here w none) pattern := format_eq here (.clock w) mask
  have hzoned : format elsewhere (.zoned w here.toZone) mask
      = render (Timestamp.readClock? clockMode elsewhere w (some here.toZone)) pattern :=
    format_eq elsewhere (.zoned w here.toZone) mask
  rw [hlocal, hzoned, Timestamp.readClock?_none clockMode here elsewhere, ← Timestamp.hasLocalOffset_iff,
    ← Timestamp.readClock?_toZone_eq_none_iff clockMode here elsewhere]
  by_cases ho : Timestamp.hasLocalOffset here w = true
  · rw [if_pos ho]
    exact ⟨fun _ => .inl ho, fun _ => rfl⟩
  · rw [if_neg ho, or_iff_right ho]
    cases hr : Timestamp.readClock? clockMode elsewhere w (some here.toZone) with
    | none => exact ⟨fun _ => .inr rfl, fun _ => rfl⟩
    | some r =>
        rw [render_some_eq_none_iff (Timestamp.question_not_mem_zone rfl hr)]
        exact ⟨.inl, fun h => h.resolve_right (Option.some_ne_none r)⟩

/-- In the last hour of the calendar a local clock is not read in a zone that is an hour ahead. -/
example :
    let w : WallClock := ⟨⟨9999, 12, 31, by decide⟩, ⟨23, 0, 0, 0, by decide⟩⟩
    let here : LocalZone := ⟨"EST", 60⟩
    format here (.clock w) (some "yyyy'T'HH Z") = "?'T'? ?".toList
      ∧ format here (.zoned w here.toZone) (some "yyyy'T'HH Z") = "9999'T'23 EST".toList := by
  decide

end DatePattern

/-! ## Numbers of milliseconds -/

namespace Timestamp

/-- The microsecond, in universal time, for which a number of milliseconds since the start of 1970 stands. -/
def instant? (t : Timestamp) : Option Int :=
  (t.number?.bind fun x => splitSeconds? (secondsOfMillis x)).map fun split =>
    WallClock.epochMicros + split.1 * 1000000 + split.2

/-- Whether a timestamp has a local clock, and the offset of that clock can be found. -/
def IsLocal (zone : LocalZone) (t : Timestamp) : Prop :=
  ∃ w, t.clock? zone = some (w, none) ∧ hasLocalOffset zone w = true

/-- A local clock that is found for a number is at its local microsecond. -/
theorem micros_of_localClock? {zone : LocalZone} {split : Int × Int} {w : WallClock}
    (h : localClock? zone split = some w) : (w.micros : Int) = localMicros zone split := by
  rw [localClock?, ← localMicros] at h
  split at h
  · rename_i u hu
    split at h
    · obtain rfl := Option.some.inj h
      exact WallClock.micros_of_ofMicros? hu
    · cases h
  · cases h

/-- The local clock of a number is ahead of its instant by the offset of the local zone. -/
theorem instant?_of_clock? {zone : LocalZone} {t : Timestamp} {w : WallClock} {z : Option Zone}
    (ht : t.number?.isSome) (hw : t.clock? zone = some (w, z)) :
    t.instant? = some (w.instant zone.seconds) := by
  obtain ⟨x, hx⟩ := Option.isSome_iff_exists.1 ht
  rw [clock?_of_number? hx] at hw
  obtain ⟨w', hw', he⟩ := Option.map_eq_some_iff.1 hw
  obtain ⟨rfl, -⟩ := Prod.mk.inj he
  obtain ⟨split, hsplit, hlocal⟩ := Option.bind_eq_some_iff.1 hw'
  have hmicros := micros_of_localClock? hlocal
  rw [instant?, hx, Option.bind_some, hsplit, Option.map_some, WallClock.instant, hmicros,
    localMicros, Option.some_inj]
  omega

/-- In universal time a number is set to its instant, wherever it can be read. -/
theorem read?_universal_of_isLocal {zone : LocalZone} {t : Timestamp} (ht : t.number?.isSome)
    (h : t.IsLocal zone) :
    t.read? .universal zone
      = (t.instant?.bind WallClock.ofMicros?).map fun u => ⟨u, 0, "UTC"⟩ := by
  obtain ⟨w, hw, ho⟩ := h
  have hread : t.read? .universal zone = readUniversal? w zone.seconds := by
    rw [read?, hw]
    exact if_pos ho
  rw [hread, DatePattern.readUniversal?_eq, instant?_of_clock? ht hw, Option.bind_some]

/-- The offset of a zone is less than a day, so the calendar has a day in universal time for each local
    clock of which the offset can be found. -/
theorem inCalendar_instant {zone : LocalZone} {w : WallClock} (hz : zone.minutes.natAbs ≤ 1440)
    (h : hasLocalOffset zone w = true) : WallClock.InCalendar (w.instant zone.seconds) := by
  obtain ⟨hfirst, hlast⟩ := (hasLocalOffset_iff zone w).1 h
  have hday := w.micros_divMod.1
  simp only [WallClock.InCalendar, WallClock.instant, LocalZone.seconds, TimeOfDay.microsPerDay]
    at hday hlast ⊢
  omega

end Timestamp

namespace DatePattern

/-- A number of milliseconds shown in universal time, in two local zones in which it has a local clock
    whose offset can be found: both show the same. If the offset of the zone is not more than a day, they
    show the wall clock of the instant for which the number stands. -/
theorem universal_number_like_instant (t : Timestamp) (ht : t.number?.isSome) (a b : LocalZone)
    (ha : t.IsLocal a) (hb : t.IsLocal b) :
    let shown (localZone : LocalZone) (m : Text) := format localZone t (some (universalMark ++ m))
    (∀ m, shown a m = shown b m)
      ∧ (a.minutes.natAbs ≤ 1440 → ∃ u : WallClock, t.instant? = some (u.micros : Int)
        ∧ ∀ m, shown a m = format a (.zoned u ⟨some 0, some "UTC"⟩) (some (universalMark ++ m))) := by
  intro shown
  have hshown : ∀ {z : LocalZone}, t.IsLocal z → ∀ m, shown z m
      = render ((t.instant?.bind WallClock.ofMicros?).map fun u => ⟨u, 0, "UTC"⟩) m := by
    intro z hz m
    simp only [shown]
    rw [format_eq, mode_universalMark, Timestamp.read?_universal_of_isLocal ht hz]
  refine ⟨fun m => (hshown ha m).trans (hshown hb m).symm, fun hminutes => ?_⟩
  obtain ⟨w, hw, ho⟩ := ha
  have hinstant := Timestamp.instant?_of_clock? ht hw
  obtain ⟨hlow, hhigh⟩ := Timestamp.inCalendar_instant hminutes ho
  obtain ⟨u, hu⟩ := WallClock.exists_micros_eq _ hlow hhigh
  refine ⟨u, by rw [hinstant, hu], fun m => ?_⟩
  have hzero : u.instant 0 = (u.micros : Int) := by rw [WallClock.instant]; omega
  rw [hshown ⟨w, hw, ho⟩, format_universal, readUniversal?_eq, hzero, hinstant, Option.bind_some, hu]

/-- Just before a leap day starts in universal time, it is the leap day in one zone, and early on the day
    before it in another one. -/
theorem universal_number_before_leap_day :
    let t : Timestamp := .millis 1709164799999
    let a : LocalZone := ⟨"LINT", 840⟩
    let b : LocalZone := ⟨"AoE", -720⟩
    (t.number?.isSome ∧ t.IsLocal a ∧ t.IsLocal b)
      ∧ format a t (some "MM-dd HH:mm") = "02-29 13:59".toList
      ∧ format b t (some "MM-dd HH:mm") = "02-28 11:59".toList
      ∧ format a t (some "UTC:MM-dd HH:mm:ss,S") = "02-28 23:59:59,999".toList
      ∧ format b t (some "UTC:MM-dd HH:mm:ss,S") = "02-28 23:59:59,999".toList := by
  intro t a b
  have ha : t.IsLocal a :=
    ⟨⟨⟨2024, 2, 29, by decide⟩, ⟨13, 59, 59, 999000, by decide⟩⟩, by decide +kernel, by decide⟩
  have hb : t.IsLocal b :=
    ⟨⟨⟨2024, 2, 28, by decide⟩, ⟨11, 59, 59, 999000, by decide⟩⟩, by decide +kernel, by decide⟩
  obtain ⟨hsame, -⟩ := universal_number_like_instant t rfl a b ha hb
  have hshown : format a t (some "UTC:MM-dd HH:mm:ss,S") = "02-28 23:59:59,999".toList := by
    decide +kernel
  exact ⟨⟨rfl, ha, hb⟩, by decide +kernel, by decide +kernel, hshown,
    (hsame "MM-dd HH:mm:ss,S").symm.trans hshown⟩

end DatePattern
end EventLog

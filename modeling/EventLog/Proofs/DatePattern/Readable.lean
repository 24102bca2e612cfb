import EventLog.Proofs.DatePattern.UniversalTime

set_option autoImplicit false

/-! # Dates that cannot be read

A date may be no date at all, a number that is not finite or lies outside of the calendar, or a wall clock
that cannot be converted: its local offset is not to be found, or the calendar has no day for it in
universal time. `Timestamp.Unreadable` lists these, and just these show nothing (`read?_eq_none_iff`). -/

namespace EventLog

/-! ## Numbers that are not finite -/

namespace Double

/-- Whether a double is neither infinite nor undefined. -/
def IsFinite (x : Float) : Prop :=
  ∃ m e, magnitude x = .finite m e

theorem ext_toNat {x y : Float} (h : x.toBits.toNat = y.toBits.toNat) : x = y := by
  obtain ⟨⟨b, hb⟩⟩ := x
  obtain ⟨⟨c, hc⟩⟩ := y
  obtain rfl : b = c := UInt64.toNat_inj.1 h
  rfl

theorem exponent_of_not_isFinite {x : Float} (h : ¬ IsFinite x) :
    x.toBits.toNat / Nat.pow 2 52 % Nat.pow 2 11 = 2047 := by
  refine Decidable.byContradiction fun he => h ?_
  unfold IsFinite magnitude
  dsimp only
  split
  · exact ⟨_, _, rfl⟩
  · rename_i hk
    exact absurd hk he
  · exact ⟨_, _, rfl⟩

/-- A double that is undefined has the one bit pattern for that. -/
theorem eq_undefined {x : Float} (he : x.toBits.toNat / Nat.pow 2 52 % Nat.pow 2 11 = 2047)
    (hf : x.toBits.toNat % Nat.pow 2 52 ≠ 0) : x = 0.0 / 0.0 := by
  have hnan : ((0.0 / 0.0 : Float)).toBits.toBitVec
      = Float.Model.UnpackedFloat.packedNaN .binary64 := by
    decide +kernel
  obtain ⟨⟨b, hb⟩⟩ := x
  have hbits : b.toBitVec = Float.Model.UnpackedFloat.packedNaN .binary64 := by
    refine hb.eq_packedNaN (BitVec.eq_of_toNat_eq ?_) fun hz => hf ?_
    · rw [Float.Model.UnpackedFloat.unpackExponent, BitVec.toNat_cast, BitVec.extractLsb_toNat,
        Nat.shiftRight_eq_div_pow]
      exact he
    · have hn := congrArg BitVec.toNat hz
      rw [Float.Model.UnpackedFloat.unpackMantissa, BitVec.toNat_cast, BitVec.extractLsb_toNat] at hn
      exact hn
  refine ext_toNat ?_
  show b.toBitVec.toNat = _
  rw [hbits, ← hnan]
  rfl

/-- There is one undefined double, and there are two infinite ones. -/
theorem eq_of_not_isFinite {x : Float} (h : ¬ IsFinite x) :
    x = 0.0 / 0.0 ∨ x = 1.0 / 0.0 ∨ x = -1.0 / 0.0 := by
  have he : x.toBits.toNat / 2 ^ 52 % 2 ^ 11 = 2047 := exponent_of_not_isFinite h
  have hlt : x.toBits.toNat < 2 ^ 64 := x.toBits.toNat_lt
  by_cases hf : x.toBits.toNat % 2 ^ 52 = 0
  · have hplus : ((1.0 / 0.0 : Float)).toBits.toNat = 2047 * 2 ^ 52 := by decide +kernel
    have hminus : ((-1.0 / 0.0 : Float)).toBits.toNat = 4095 * 2 ^ 52 := by decide +kernel
    by_cases hs : x.toBits.toNat < 2 ^ 63
    · exact .inr (.inl (ext_toNat (by omega)))
    · exact .inr (.inr (ext_toNat (by omega)))
  · exact .inl (eq_undefined he hf)

end Double

namespace Timestamp

/-- Seconds that are not finite are not split. -/
theorem splitSeconds?_of_not_isFinite {x : Float} (h : ¬ Double.IsFinite x) :
    splitSeconds? (secondsOfMillis x) = none := by
  have ht : Double.truncate? (secondsOfMillis x) = none := by
    rcases Double.eq_of_not_isFinite h with rfl | rfl | rfl <;> decide +kernel
  rw [splitSeconds?, ht]

/-! ## Wall clocks -/

/-- Why a wall clock of a zone, or of none, cannot be shown. -/
inductive ConversionFails (mode : ClockMode) (zone : LocalZone) (w : WallClock) : Option Zone → Prop
  /-- A local clock is so near to an end of the calendar that its offset cannot be found. -/
  | localOffset (h : w.date.number < 2
        ∨ WallClock.lastMicros < w.micros + zone.seconds.natAbs * 1000000) :
      ConversionFails mode zone w none
  /-- The calendar has no day for a local clock in universal time. -/
  | localInstant (hm : mode = .universal) (h : ¬ WallClock.InCalendar (w.instant zone.seconds)) :
      ConversionFails mode zone w none
  /-- The calendar has no day for a clock of a zone in universal time. -/
  | zoneInstant {ahead : Int} {name : Option Text} (hm : mode = .universal)
      (h : ¬ WallClock.InCalendar (w.instant ahead)) : ConversionFails mode zone w (some ⟨some ahead, name⟩)
  /-- A clock of a zone of unknown offset is converted as a local one. -/
  | unknownOffset {name : Option Text} (hm : mode = .universal)
      (h : ConversionFails mode zone w none) : ConversionFails mode zone w (some ⟨none, name⟩)

theorem readUniversal?_eq_none_iff (w : WallClock) (ahead : Int) :
    readUniversal? w ahead = none ↔ ¬ WallClock.InCalendar (w.instant ahead) := by
  rw [DatePattern.readUniversal?_eq, Option.map_eq_none_iff, ← WallClock.isSome_ofMicros?]
  simp

theorem hasLocalOffset_eq_false_iff (zone : LocalZone) (w : WallClock) :
    hasLocalOffset zone w = false
      ↔ w.date.number < 2 ∨ WallClock.lastMicros < w.micros + zone.seconds.natAbs * 1000000 := by
  rw [hasLocalOffset, Bool.and_eq_false_iff, decide_eq_false_iff_not, decide_eq_false_iff_not]
  omega

theorem readClock?_none_eq_none_iff (mode : ClockMode) (zone : LocalZone) (w : WallClock) :
    readClock? mode zone w none = none ↔ ConversionFails mode zone w none := by
  dsimp only [readClock?]
  by_cases ho : hasLocalOffset zone w = true
  · have hoffset : ¬ (w.date.number < 2
        ∨ WallClock.lastMicros < w.micros + zone.seconds.natAbs * 1000000) := fun h =>
      Bool.false_ne_true (((hasLocalOffset_eq_false_iff zone w).2 h).symm.trans ho)
    rw [if_pos ho]
    cases mode with
    | own =>
        refine ⟨fun h => (nomatch h), fun h => ?_⟩
        cases h with
        | localOffset h => exact absurd h hoffset
        | localInstant hm => cases hm
    | universal =>
        rw [readUniversal?_eq_none_iff]
        refine ⟨.localInstant rfl, fun h => ?_⟩
        cases h with
        | localOffset h => exact absurd h hoffset
        | localInstant hm h => exact h
  · rw [if_neg ho]
    exact ⟨fun _ => .localOffset ((hasLocalOffset_eq_false_iff zone w).1 (eq_false_of_ne_true ho)),
      fun _ => rfl⟩

/-- A wall clock shows nothing just if it cannot be converted. -/
theorem readClock?_eq_none_iff (mode : ClockMode) (zone : LocalZone) (w : WallClock)
    (z : Option Zone) : readClock? mode zone w z = none ↔ ConversionFails mode zone w z := by
  match z with
  | none => exact readClock?_none_eq_none_iff mode zone w
  | some ⟨offset, name⟩ =>
      cases mode with
      | own =>
          refine ⟨fun h => (nomatch h), fun h => ?_⟩
          cases h with
          | zoneInstant hm => cases hm
          | unknownOffset hm => cases hm
      | universal =>
          cases offset with
          | some ahead =>
              refine (readUniversal?_eq_none_iff w ahead).trans ⟨.zoneInstant rfl, fun h => ?_⟩
              cases h with
              | zoneInstant hm h => exact h
          | none =>
              -- the clock is read like one without a zone
              refine (readClock?_none_eq_none_iff .universal zone w).trans
                ⟨.unknownOffset rfl, fun h => ?_⟩
              cases h with
              | unknownOffset hm h => exact h

/-! ## All timestamps -/

/-- The milliseconds since the start of 1970, if the timestamp is a number. -/
def number? : Timestamp → Option Float
  | millis n => some (Float.ofInt n)
  | millisFloat x => some x
  | _ => none

/-- The microsecond that a local clock shows so many seconds and microseconds after the start of 1970. -/
def localMicros (zone : LocalZone) (split : Int × Int) : Int :=
  WallClock.epochMicros + (split.1 + zone.seconds) * 1000000 + split.2

/-- Why a timestamp shows nothing. -/
inductive Unreadable (mode : ClockMode) (zone : LocalZone) : Timestamp → Prop
  /-- It is no date. -/
  | other : Unreadable mode zone other
  /-- It is infinite or undefined. -/
  | notFinite {x : Float} (h : ¬ Double.IsFinite x) : Unreadable mode zone (millisFloat x)
  /-- It is a number, and the calendar has no day for it on a local clock, or has only its first one. -/
  | outOfCalendar {t : Timestamp} {x : Float} (ht : t.number? = some x)
      (h : ∀ split, splitSeconds? (secondsOfMillis x) = some split →
        localMicros zone split < TimeOfDay.microsPerDay
          ∨ WallClock.lastMicros < localMicros zone split) : Unreadable mode zone t
  /-- It has a wall clock that cannot be converted. -/
  | conversion {t : Timestamp} {w : WallClock} {z : Option Zone} (ht : t.clock? zone = some (w, z))
      (h : ConversionFails mode zone w z) : Unreadable mode zone t

theorem localClock?_eq_none_iff (zone : LocalZone) (split : Int × Int) :
    localClock? zone split = none
      ↔ localMicros zone split < TimeOfDay.microsPerDay
        ∨ WallClock.lastMicros < localMicros zone split := by
  have hcalendar := WallClock.isSome_ofMicros? (localMicros zone split)
  rw [WallClock.InCalendar] at hcalendar
  rw [localClock?, ← localMicros]
  cases hw : WallClock.ofMicros? (localMicros zone split) with
  | none =>
      rw [hw] at hcalendar
      have hday : (0 : Int) < TimeOfDay.microsPerDay := by decide
      simp only [Option.isSome_none, Bool.false_eq_true, false_iff] at hcalendar
      simp only [true_iff]
      omega
  | some w =>
      -- the second day starts when the microseconds of one day are over
      have hm := WallClock.micros_of_ofMicros? hw
      have hd := w.micros_divMod.1
      rw [hw, ← hm] at hcalendar
      have hlast := (hcalendar.1 rfl).2
      rw [← hm]
      simp only [TimeOfDay.microsPerDay] at hd ⊢
      by_cases h2 : 2 ≤ w.date.number
      · rw [if_pos h2]
        simp only [reduceCtorEq, false_iff]
        omega
      · rw [if_neg h2]
        simp only [true_iff]
        omega

/-- The wall clock of a number is a local one. -/
theorem clock?_of_number? {zone : LocalZone} {t : Timestamp} {x : Float} (ht : t.number? = some x) :
    t.clock? zone
      = ((splitSeconds? (secondsOfMillis x)).bind (localClock? zone)).map (·, none) := by
  cases t <;> cases ht <;> rfl

/-- A number has a wall clock just if the calendar has a day for it that is not the first one. -/
theorem clock?_eq_none_iff {zone : LocalZone} {t : Timestamp} {x : Float} (ht : t.number? = some x) :
    t.clock? zone = none
      ↔ ∀ split, splitSeconds? (secondsOfMillis x) = some split →
        localMicros zone split < TimeOfDay.microsPerDay
          ∨ WallClock.lastMicros < localMicros zone split := by
  rw [clock?_of_number? ht, Option.map_eq_none_iff, Option.bind_eq_none_iff]
  exact forall_congr' fun split => imp_congr_right fun _ => localClock?_eq_none_iff zone split

/-- A timestamp shows nothing just if there is one of these reasons for it. -/
theorem read?_eq_none_iff (mode : ClockMode) (zone : LocalZone) (t : Timestamp) :
    t.read? mode zone = none ↔ t.Unreadable mode zone := by
  cases hc : t.clock? zone with
  | some p =>
      obtain ⟨w, z⟩ := p
      rw [read?, hc]
      dsimp only
      rw [readClock?_eq_none_iff]
      refine ⟨.conversion hc, fun h => ?_⟩
      cases h with
      | other => cases hc
      | notFinite hx =>
          rw [clock?, splitSeconds?_of_not_isFinite hx] at hc
          cases hc
      | outOfCalendar ht h =>
          rw [(clock?_eq_none_iff ht).2 h] at hc
          cases hc
      | conversion ht h =>
          obtain ⟨rfl, rfl⟩ := Prod.mk.inj (Option.some.inj (hc.symm.trans ht))
          exact h
  | none =>
      have hread : t.read? mode zone = none := by rw [read?, hc]
      refine ⟨fun _ => ?_, fun _ => hread⟩
      cases t with
      | other => exact .other
      | millis n => exact .outOfCalendar rfl ((clock?_eq_none_iff rfl).1 hc)
      | millisFloat x => exact .outOfCalendar rfl ((clock?_eq_none_iff rfl).1 hc)
      | _ => cases hc

end Timestamp
end EventLog

import Mathlib.Data.List.Basic
import EventLog.Proofs.DatePattern.UniversalTime

set_option autoImplicit false

/-! # Reading dates back

Most fields show the same number of characters whatever the date is, if its year has four digits. So the
text that a pattern shows can be cut again at the places where one field ends and the next begins, even
without a separator between them, as long as only the last field varies in width (`cut_filled`). If the
fields tell year, month, day and time of day down to the millisecond, these are read back from the parts
(`decode_render`). All named patterns are of this kind except the one that shows no day. -/

namespace EventLog

/-- A wall clock as it is known when full milliseconds are. -/
structure MilliClock where
  year : Nat
  month : Nat
  day : Nat
  hour : Nat
  minute : Nat
  second : Nat
  milli : Nat
deriving DecidableEq

/-- The wall clock without what is left over of a millisecond. -/
def WallClock.toMilli (w : WallClock) : MilliClock :=
  ⟨w.date.year, w.date.month, w.date.day, w.time.hour, w.time.minute, w.time.second, w.milli⟩

/-! ## Widths -/

theorem Date.month_day_lt (d : Date) : d.month < 13 ∧ d.day < 32 := by
  obtain ⟨-, -, hm₁, hm₁₂, -, hd⟩ := d.valid
  have hlengths : ∀ leap : Bool, ∀ m < 13,
      [31, if leap then 29 else 28, 31, 30, 31, 30, 31, 31, 30, 31, 30, 31].getD (m - 1) 0 ≤ 31 := by
    decide
  have hlength : daysInMonth d.year d.month ≤ 31 := hlengths (isLeapYear d.year) d.month (by omega)
  omega

/-- A numeral of two digits, or of one with a zero in front. -/
theorem DateField.length_padded {n : Nat} (h : n < 100) : (padded n).length = 2 := by
  have hle : (Text.ofNat n).length ≤ 2 := (Nat.length_toDigits_le_iff (by decide) (by decide)).2 h
  rw [padded, Text.ofNatPadded, Text.length_padLeft]
  omega

theorem Date.length_year {d : Date} (h : 1000 ≤ d.year) : (Text.ofNat d.year).length = 4 := by
  have hle : (Text.ofNat d.year).length ≤ 4 :=
    (Nat.length_toDigits_le_iff (by decide) (by decide)).2 (by have := d.valid; omega)
  have hgt : ¬ (Text.ofNat d.year).length ≤ 3 := fun h' => by
    have := (Nat.length_toDigits_le_iff (by decide) (by decide)).1 h'
    omega
  omega

namespace DateField

/-- The number of characters that the field shows of every date whose year has four digits, if it is
    always the same. -/
def width? : DateField → Option Nat
  | halfInitial | halfInitialCapital => some 1
  | dayPadded | monthPadded | yearShort | dialHourPadded | hourPadded | minutePadded | secondPadded
  | half | halfCapital => some 2
  | weekdayShort | monthShort => some 3
  | yearFull => some 4
  | day | weekdayFull | month | monthFull | dialHour | hour | minute | second | milli | zone
  | offset => none

theorem length_text {r : Reading} (hy : 1000 ≤ r.clock.date.year) {f : DateField} {n : Nat}
    (h : f.width? = some n) : (f.text r).length = n := by
  obtain ⟨hmonth, hday⟩ := r.clock.date.month_day_lt
  obtain ⟨hhour, hminute, hsecond, -⟩ := r.clock.time.valid
  have hyear := r.clock.date.length_year hy
  have hdial : r.clock.dialHour < 100 := by
    rw [WallClock.dialHour]
    split <;> omega
  have hhalf : ∀ am pm : Text, am.length = n → pm.length = n →
      (if r.clock.time.hour < 12 then am else pm).length = n := fun am pm ha hp => by
    split <;> assumption
  have hmonths : ∀ m < 13, (short (monthNames.getD (m - 1) [])).length = 3 := by decide
  have hweekdays : ∀ i < 7, (short (weekdayNames.getD i [])).length = 3 := by decide
  cases f <;> cases h
  case halfInitial => exact hhalf "a" "p" rfl rfl
  case halfInitialCapital => exact hhalf "A" "P" rfl rfl
  case half => exact hhalf "am" "pm" rfl rfl
  case halfCapital => exact hhalf "AM" "PM" rfl rfl
  case dayPadded => exact length_padded (by omega)
  case monthPadded => exact length_padded (by omega)
  case hourPadded => exact length_padded (by omega)
  case minutePadded => exact length_padded (by omega)
  case secondPadded => exact length_padded (by omega)
  case dialHourPadded => exact length_padded hdial
  case yearShort => simp [text, hyear]
  case yearFull => exact hyear
  case weekdayShort => exact hweekdays _ r.clock.date.weekday_lt
  case monthShort => exact hmonths _ hmonth

/-- No field but those for zone and offset tells more than the wall clock does, or finer than
    milliseconds. -/
theorem text_congr {r r' : Reading} (h : r.clock.toMilli = r'.clock.toMilli) {f : DateField}
    (hz : f ≠ zone) (ho : f ≠ offset) : f.text r = f.text r' := by
  obtain ⟨⟨⟨year, month, day, hd⟩, ⟨hour, minute, second, micro, ht⟩⟩, ahead, name⟩ := r
  obtain ⟨⟨⟨year', month', day', hd'⟩, ⟨hour', minute', second', micro', ht'⟩⟩, ahead', name'⟩ := r'
  obtain ⟨rfl, rfl, rfl, rfl, rfl, rfl, hmilli⟩ := MilliClock.mk.inj h
  cases f
  case zone => exact absurd rfl hz
  case offset => exact absurd rfl ho
  case milli => exact congrArg Text.ofNat hmilli
  all_goals rfl

end DateField

namespace DatePattern

/-! ## Cutting a text by a pattern -/

/-- Whether no field but the last piece varies in width. -/
def onlyLastVaries : List Piece → Bool
  | [] => true
  | .text _ :: rest => onlyLastVaries rest
  | .field f :: rest => if f.width?.isSome then onlyLastVaries rest else rest.isEmpty

/-- The fields of a pattern, in order. -/
def fieldsOf (ps : List Piece) : List DateField :=
  ps.filterMap fun
    | .field f => some f
    | .text _ => none

/-- Cuts a text by the widths of pieces, and gives each field with its part of the text. A field that
    varies in width gets all that is left. -/
def cut : List Piece → Text → List (DateField × Text)
  | [], _ => []
  | .text t :: rest, shown => cut rest (shown.drop t.length)
  | .field f :: rest, shown =>
      let n := f.width?.getD shown.length
      (f, shown.take n) :: cut rest (shown.drop n)

/-- The parts are cut where the fields begin and end. -/
theorem cut_filled {r : Reading} (hy : 1000 ≤ r.clock.date.year) {ps : List Piece}
    (h : onlyLastVaries ps = true) :
    cut ps (ps.flatMap (Piece.filled (DateField.text r)))
      = (fieldsOf ps).map fun f => (f, f.text r) := by
  induction ps with
  | nil => rfl
  | cons piece rest ih =>
      rw [List.flatMap_cons]
      cases piece with
      | text t =>
          rw [Piece.filled, cut, List.drop_left]
          exact ih h
      | field f =>
          rw [Piece.filled, cut]
          cases hw : f.width? with
          | some n =>
              have hn : (f.text r).length = n := DateField.length_text hy hw
              have hrest : onlyLastVaries rest = true := by simpa [onlyLastVaries, hw] using h
              rw [Option.getD_some, ← hn, List.take_left, List.drop_left, ih hrest]
              rfl
          | none =>
              -- this is the last piece, so the field is all that is left
              obtain rfl : rest = [] := by simpa [onlyLastVaries, hw] using h
              simp [cut, fieldsOf]

theorem mem_fieldsOf {f : DateField} {ps : List Piece} : f ∈ fieldsOf ps ↔ .field f ∈ ps := by
  rw [fieldsOf, List.mem_filterMap]
  constructor
  · rintro ⟨_ | _, hp, he⟩
    · rw [Option.some.inj he] at hp
      exact hp
    · cases he
  · exact fun hp => ⟨.field f, hp, rfl⟩

/-! ## Decoding -/

/-- The month with this short name. -/
def monthOfName (t : Text) : Nat :=
  (DateField.monthNames.map DateField.short).idxOf t + 1

/-- The wall clock that a text tells when it is read by a pattern. -/
def decode (pattern shown : Text) : Option MilliClock :=
  let parts := cut (pieces pattern) shown
  let number (f : DateField) : Option Nat := (parts.lookup f).map Text.toNat
  do
    let year ← number .yearFull
    let month ← (number .monthPadded).or ((parts.lookup .monthShort).map monthOfName)
    let day ← number .dayPadded
    let hour ← number .hourPadded
    let minute ← number .minutePadded
    let second ← number .secondPadded
    let milli ← number .milli
    pure ⟨year, month, day, hour, minute, second, milli⟩

/-- Whether a pattern tells the wall clock down to the millisecond and nothing else, in a form that can be
    read back. -/
structure IsLossless (pattern : Text) : Prop where
  cuttable : onlyLastVaries (pieces pattern) = true
  complete : ∀ f ∈ [DateField.yearFull, .dayPadded, .hourPadded, .minutePadded, .secondPadded, .milli],
    f ∈ fieldsOf (pieces pattern)
  month : .monthPadded ∈ fieldsOf (pieces pattern) ∨ .monthShort ∈ fieldsOf (pieces pattern)
  zone : .zone ∉ fieldsOf (pieces pattern)
  offset : .offset ∉ fieldsOf (pieces pattern)

instance (pattern : Text) : Decidable (IsLossless pattern) :=
  decidable_of_iff (onlyLastVaries (pieces pattern) = true
      ∧ (∀ f ∈ [DateField.yearFull, .dayPadded, .hourPadded, .minutePadded, .secondPadded, .milli],
        f ∈ fieldsOf (pieces pattern))
      ∧ (.monthPadded ∈ fieldsOf (pieces pattern) ∨ .monthShort ∈ fieldsOf (pieces pattern))
      ∧ .zone ∉ fieldsOf (pieces pattern) ∧ .offset ∉ fieldsOf (pieces pattern))
    ⟨fun ⟨h₁, h₂, h₃, h₄, h₅⟩ => ⟨h₁, h₂, h₃, h₄, h₅⟩, fun ⟨h₁, h₂, h₃, h₄, h₅⟩ => ⟨h₁, h₂, h₃, h₄, h₅⟩⟩

theorem monthOfName_text (r : Reading) :
    monthOfName (DateField.monthShort.text r) = r.clock.date.month := by
  have hnames : ∀ m < 13, 1 ≤ m →
      monthOfName (DateField.short (DateField.monthNames.getD (m - 1) [])) = m := by
    decide
  have hm := r.clock.date.valid
  exact hnames _ (by omega) hm.2.2.1

/-- What a lossless pattern shows of a date is read back from the text. -/
theorem decode_render {pattern : Text} (hp : IsLossless pattern) {r : Reading}
    (hy : 1000 ≤ r.clock.date.year) :
    decode pattern (render (some r) pattern) = some r.clock.toMilli := by
  have hcut := cut_filled hy hp.cuttable
  have hpart : ∀ {f}, f ∈ fieldsOf (pieces pattern) →
      (cut (pieces pattern) (render (some r) pattern)).lookup f = some (f.text r) := fun hf => by
    rw [render_eq_filled, hcut, List.lookup_graph _ hf]
  have hmonth : (((cut (pieces pattern) (render (some r) pattern)).lookup .monthPadded).map
      Text.toNat).or (((cut (pieces pattern) (render (some r) pattern)).lookup .monthShort).map
        monthOfName) = some r.clock.date.month := by
    by_cases hm : .monthPadded ∈ fieldsOf (pieces pattern)
    · rw [hpart hm]
      exact congrArg some (Text.toNat_ofNatPadded 2 r.clock.date.month)
    · have hnone : (cut (pieces pattern) (render (some r) pattern)).lookup .monthPadded = none := by
        rw [render_eq_filled, hcut, List.lookup_eq_none_iff]
        intro part hpart
        obtain ⟨f, hf, rfl⟩ := List.mem_map.1 hpart
        exact bne_iff_ne.2 fun he => hm (he ▸ hf)
      rw [hnone, hpart (hp.month.resolve_left hm)]
      exact congrArg some (monthOfName_text r)
  rw [decode]
  dsimp only
  rw [hmonth, hpart (hp.complete .yearFull (by decide)), hpart (hp.complete .dayPadded (by decide)),
    hpart (hp.complete .hourPadded (by decide)), hpart (hp.complete .minutePadded (by decide)),
    hpart (hp.complete .secondPadded (by decide)), hpart (hp.complete .milli (by decide))]
  simp [DateField.text, DateField.padded, WallClock.toMilli]

/-- Dates with the same full milliseconds look alike. -/
theorem render_congr {pattern : Text} (hp : IsLossless pattern) {r r' : Reading}
    (h : r.clock.toMilli = r'.clock.toMilli) :
    render (some r) pattern = render (some r') pattern := by
  rw [render_eq_filled, render_eq_filled]
  refine List.flatMap_congr fun piece hm => ?_
  cases piece with
  | text t => rfl
  | field f =>
      have hf := mem_fieldsOf.2 hm
      exact DateField.text_congr h (fun he => hp.zone (he ▸ hf)) fun he => hp.offset (he ▸ hf)

/-! ## Named patterns -/

theorem isLossless_named : ∀ p ∈ named, p.1 ≠ "ABSOLUTE" →
    IsLossless (resolve (some p.1)) ∧ mode (resolve (some p.1)) = (.own, resolve (some p.1)) := by
  decide

/-- A date that can be read is shown on its own clock. -/
theorem exists_read?_own {localZone : LocalZone} {t : Timestamp} {w : WallClock} {z : Option Zone}
    (ht : t.clock? localZone = some (w, z)) (hr : (t.read? .own localZone).isSome) :
    ∃ r, t.read? .own localZone = some r ∧ r.clock = w := by
  obtain ⟨r, h⟩ := Option.isSome_iff_exists.1 hr
  refine ⟨r, h, ?_⟩
  rw [Timestamp.read?, ht] at h
  cases z with
  | none =>
      dsimp only [Timestamp.readClock?] at h
      split at h
      · rw [← Option.some.inj h]
      · cases h
  | some z => rw [← Option.some.inj h]

/-- Two dates shown by a named pattern other than `ABSOLUTE`, each of a clock of its own in the years from
    1000 on, and each of which can be read: they look alike just if their own clocks show the same year,
    month, day, hour, minute, second and millisecond, and these are read back from what is shown. -/
theorem named_lossless (localZone : LocalZone) (name : Text) (hn : name ∈ named.map (·.1))
    (ha : name ≠ "ABSOLUTE") (t t' : Timestamp) (w w' : WallClock) (z z' : Option Zone)
    (ht : t.clock? localZone = some (w, z)) (ht' : t'.clock? localZone = some (w', z'))
    (hr : (t.read? .own localZone).isSome) (hr' : (t'.read? .own localZone).isSome)
    (hy : 1000 ≤ w.date.year) (hy' : 1000 ≤ w'.date.year) :
    let shown (t : Timestamp) := format localZone t (some name)
    (shown t = shown t' ↔ w.toMilli = w'.toMilli)
      ∧ decode (resolve (some name)) (shown t) = some w.toMilli := by
  intro shown
  obtain ⟨p, hp, rfl⟩ := List.mem_map.1 hn
  obtain ⟨hlossless, hmode⟩ := isLossless_named p hp ha
  have hshown : ∀ t, shown t = render (t.read? .own localZone) (resolve (some p.1)) := fun t => by
    simp only [shown]
    rw [format, hmode]
  obtain ⟨r, hread, rfl⟩ := exists_read?_own ht hr
  obtain ⟨r', hread', rfl⟩ := exists_read?_own ht' hr'
  have hdecode := decode_render hlossless hy
  have hdecode' := decode_render hlossless hy'
  rw [hshown, hshown, hread, hread']
  refine ⟨⟨fun h => ?_, render_congr hlossless⟩, hdecode⟩
  rw [h, hdecode'] at hdecode
  exact (Option.some.inj hdecode).symm

/-- Two clocks that differ by less than a millisecond look alike, one without a zone and one far ahead;
    the one digit of the milliseconds is read back although it follows the seconds directly. -/
theorem compact_lossless_with_short_milliseconds :
    let w : WallClock := ⟨⟨2024, 2, 29, by decide⟩, ⟨13, 5, 9, 7123, by decide⟩⟩
    let w' : WallClock := ⟨⟨2024, 2, 29, by decide⟩, ⟨13, 5, 9, 7999, by decide⟩⟩
    let shown (t : Timestamp) := format .universal t (some "COMPACT")
    shown (.clock w) = shown (.zoned w' ⟨some 50400, none⟩)
      ∧ shown (.clock w) = "202402291305097".toList
      ∧ decode (resolve (some "COMPACT")) (shown (.clock w)) = some ⟨2024, 2, 29, 13, 5, 9, 7⟩ := by
  intro w w' shown
  obtain ⟨hiff, hdecode⟩ := named_lossless .universal "COMPACT" (by decide) (by decide) (.clock w)
    (.zoned w' ⟨some 50400, none⟩) w w' none (some ⟨some 50400, none⟩) rfl rfl (by decide) (by decide)
    (by decide) (by decide)
  exact ⟨hiff.2 (by decide), by decide, hdecode.trans (by decide)⟩

end DatePattern
end EventLog

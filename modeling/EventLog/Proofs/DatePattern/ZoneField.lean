import EventLog.Proofs.DatePattern.Decoding
import EventLog.Proofs.Zone.Search

set_option autoImplicit false

/-! # What is shown for a zone

On its own clock a date shows the abbreviation of the last zone that is found in the name of its zone, and
nothing if none is found. Whatever the name is, this has one of a few forms (`zone_field_forms`).

A zone that has only an offset is named by it, as in `UTC+05:30`. The search does not know offsets with a
colon, and finds universal time in such a name. So these zones are all shown as universal time, beside an
offset that may say otherwise (`offset_named_zone_shown`). -/

namespace EventLog

namespace Zone

open Text (isWord isDecimalDigit)

/-! ## Zones named by their offset -/

/-- Where there are no initials, nothing is found. -/
theorem search_nil_of_no_initial (before : Option Char) {t : Text} (h : ∀ c ∈ t, c ∉ initials) :
    Search before t [] := by
  induction t generalizing before with
  | nil => exact .nil
  | cons c rest ih =>
      refine .next (fun name hn => ?_) (ih (some c) fun d hd => h d (List.mem_cons_of_mem _ hd))
      obtain ⟨short, hs⟩ := hn.recognised
      obtain ⟨u, hu⟩ := hn.starts
      have hinitial := hs.ends.1
      have hhead : name.head? = some c := by
        rw [← List.head?_append_of_ne_nil _ hs.ne_nil, hu, List.head?_cons]
      rw [hhead] at hinitial
      exact h c List.mem_cons_self (List.contains_iff_mem.1 hinitial)

/-- Universal time is all that is found in front of a text that is no offset and holds no initials. -/
theorem search_universal_append {rest : Text} (hoffset : offsetAt? rest = none)
    (hhead : ∀ c ∈ rest.head?, isWord c = false) (hrest : ∀ c ∈ rest, c ∉ initials) :
    Search none ("UTC" ++ rest) ["UTC"] := by
  have hn : "UTC".toList ∈ universalNames := by decide
  have hplain : ∀ {u : Text}, u ∈ plainNames → u <+: "UTC".toList ++ rest → u = "UTC".toList :=
    fun hu hp => eq_of_mem_plainNames hu (mem_plainNames_of_mem_universalNames hn) hp
      (List.prefix_append _ _)
  refine .found ⟨⟨_, .short (.universal hn)⟩, List.prefix_append _ _, fun c hc => (nomatch hc), ?_⟩
    (fun other ho => ?_) (search_nil_of_no_initial _ hrest)
  · rw [List.drop_left]
    exact hhead
  · rcases exists_abbreviates_iff.1 ho.recognised with h | ⟨u, hu, o, hoff, rfl⟩
    · exact Nat.le_of_eq (congrArg List.length (hplain h ho.starts))
    · -- the offset would be at the start of the rest
      obtain rfl := hplain (mem_plainNames_of_mem_universalNames hu)
        ((List.prefix_append u o).trans ho.starts)
      have hsome := offsetAt?_eq_some_iff.2 ⟨hoff, (List.prefix_append_right_inj _).1 ho.starts⟩
      rw [hoffset] at hsome
      cases hsome

/-- Hours and minutes with a colon between them are no offset. -/
theorem offsetAt?_colon (sign x y : Char) (rest : Text) :
    offsetAt? (sign :: x :: y :: ':' :: rest) = none := by
  cases rest with
  | nil => rfl
  | cons d rest =>
      have hcolon : isDecimalDigit ':' = false := by decide
      rw [offsetAt?, if_neg]
      simp [hcolon]

/-- The name of a zone that has only an offset is universal time and a text of digits, signs and colons. It
    is empty or starts with a sign, and the search knows no offset in it. -/
theorem exists_offsetName_eq {s : Int} (hs : s.natAbs < 86400) :
    ∃ rest : Text, offsetName s = "UTC".toList ++ rest ∧ offsetAt? rest = none
      ∧ (∀ c ∈ rest.head?, c = '-' ∨ c = '+')
      ∧ ∀ c ∈ rest, c.isDigit = true ∨ c ∈ "+-:".toList := by
  have hdigits : ∀ {width n : Nat} {c : Char}, c ∈ Text.ofNatPadded width n →
      c.isDigit = true ∨ c ∈ "+-:".toList := fun h => .inl (Text.isDigit_of_mem_ofNatPadded h)
  rw [offsetName]
  split
  · exact ⟨[], rfl, rfl, by simp, List.forall_mem_nil _⟩
  · dsimp only
    have hsign : ∀ p : Prop, [Decidable p] → (if p then '-' else '+') = '-'
        ∨ (if p then '-' else '+') = '+' := fun p _ => by split <;> simp
    have hcolon : ∀ {t : Text}, (∀ c ∈ t, c.isDigit = true ∨ c ∈ "+-:".toList) →
        ∀ c ∈ ':' :: t, c.isDigit = true ∨ c ∈ "+-:".toList := fun h =>
      List.forall_mem_cons.2 ⟨.inr (by decide), h⟩
    refine ⟨_, rfl, ?colon, fun c hc => Option.some.inj hc ▸ hsign _, ?characters⟩
    case colon =>
      -- the hours have two digits, so the third character after the sign is the colon
      obtain ⟨x, y, hxy⟩ := List.length_eq_two.1
        (DateField.length_padded (show s.natAbs / 3600 < 100 by omega))
      rw [DateField.padded] at hxy
      rw [hxy]
      exact offsetAt?_colon _ x y _
    case characters =>
      refine List.forall_mem_cons.2 ⟨?_, List.forall_mem_append.2 ⟨List.forall_mem_append.2 ⟨?_, ?_⟩, ?_⟩⟩
      · rcases hsign (s < 0) with h | h <;> rw [h] <;> decide
      · exact fun _ => hdigits
      · exact hcolon fun _ => hdigits
      · split
        · exact List.forall_mem_nil _
        · exact hcolon fun _ => hdigits

/-- In the name of a zone that has only an offset, which is less than a day, universal time is found. -/
theorem search_offsetName {s : Int} (hs : s.natAbs < 86400) : Search none (offsetName s) ["UTC"] := by
  have hinitials : (initials.any fun c => c.isDigit || "+-:".toList.contains c) = false := by decide
  obtain ⟨rest, hname, hoffset, hhead, hrest⟩ := exists_offsetName_eq hs
  rw [hname]
  refine search_universal_append hoffset (fun c hc => ?_) fun c hc hm => ?_
  · rcases hhead c hc with rfl | rfl <;> decide +kernel
  · have hother := List.any_eq_false.1 hinitials c hm
    rw [Bool.or_eq_true, List.contains_iff_mem] at hother
    exact hother (hrest c hc)

end Zone

/-- The offset that is shown is zero just if it is not behind and less than a minute. -/
theorem DateField.offsetText_eq_zero_iff (s : Int) :
    offsetText s = "+0000".toList ↔ 0 ≤ s ∧ s < 60 := by
  constructor
  · intro h
    obtain ⟨-, hnumeral⟩ := List.cons.inj h
    have hnumber := congrArg Text.toNat hnumeral
    rw [Text.toNat_ofNatPadded] at hnumber
    have hzero : (s / 60).natAbs / 60 * 100 + (s / 60).natAbs % 60 = 0 := hnumber
    omega
  · rintro ⟨hlow, hhigh⟩
    have hminutes : s / 60 = 0 := by omega
    rw [offsetText, hminutes]
    decide

namespace DatePattern

/-! ## Fields of a clock in a zone -/

/-- The spelling of a field is no name, and has no mark for universal time. -/
theorem mode_spelling (f : DateField) : mode (resolve (some f.spelling)) = (.own, f.spelling) := by
  cases f <;> decide

/-- What a clock in a zone shows on its own. -/
def ownReading (w : WallClock) (z : Zone) : Reading :=
  ⟨w, z.offset.getD 0, Zone.abbreviation z.shownName⟩

theorem format_zoned_own (localZone : LocalZone) (w : WallClock) (z : Zone) {mask : Option Text}
    (hm : (mode (resolve mask)).1 = .own) :
    format localZone (.zoned w z) mask = render (some (ownReading w z)) (mode (resolve mask)).2 := by
  rw [format_eq, hm]
  rfl

theorem format_zoned_spelling (localZone : LocalZone) (w : WallClock) (z : Zone) (f : DateField) :
    format localZone (.zoned w z) (some f.spelling) = f.text (ownReading w z) := by
  rw [format_zoned_own localZone w z (by rw [mode_spelling]), mode_spelling, render_spelling]

theorem format_zoned_offset (localZone : LocalZone) (w : WallClock) {z : Zone} {s : Int}
    (ho : z.offset = some s) :
    format localZone (.zoned w z) (some DateField.offset.spelling) = DateField.offsetText s := by
  rw [format_zoned_spelling, DateField.text, ownReading, ho, Option.getD_some]

/-- A clock in a zone shows each field as if it stood alone. -/
theorem format_zoned_eq_filled (localZone : LocalZone) (w : WallClock) (z : Zone) {mask : Option Text}
    (hm : (mode (resolve mask)).1 = .own) :
    format localZone (.zoned w z) mask = (pieces (mode (resolve mask)).2).flatMap
      (Piece.filled fun f => format localZone (.zoned w z) (some f.spelling)) := by
  rw [format_zoned_own localZone w z hm, render_eq_filled]
  simp only [format_zoned_spelling]

/-! ## The zone -/

/-- What a clock in a zone shows for the zone, on its own and in every pattern that has no mark for
    universal time:

    1. It is nothing, initials for one of the regions, or universal time with or without an offset of four
       digits.
    2. For a long name it is the initials.
    3. Zones are searched for in the name from left to right. There is just one list of names to be found,
       the last of them is the one that is shown, by its abbreviation, and nothing is shown if there is
       none. -/
theorem zone_field_forms (localZone : LocalZone) (w : WallClock) (z : Zone) :
    let field (f : DateField) := format localZone (.zoned w z) (some f.spelling)
    (∀ mask, (mode (resolve mask)).1 = .own →
        format localZone (.zoned w z) mask
          = (pieces (mode (resolve mask)).2).flatMap (Piece.filled field))
      ∧ (field .zone = [] ∨ Zone.IsShort (field .zone))
      ∧ (∀ region ∈ Zone.regions, ∀ variant ∈ Zone.variants,
        z.shownName = region ++ ' ' :: (variant ++ " Time") →
          field .zone = region.take 1 ++ variant.take 1 ++ ['T'])
      ∧ ∃ names, (∀ others, Zone.Search none z.shownName others ↔ others = names)
        ∧ (names = [] → field .zone = [])
        ∧ ∀ name, names.getLast? = some name → Zone.Abbreviates (field .zone) name := by
  intro field
  have hzone : field .zone = Zone.abbreviation z.shownName :=
    format_zoned_spelling localZone w z .zone
  have hsearch := Zone.search_namesFrom none z.shownName
  refine ⟨fun mask hm => format_zoned_eq_filled localZone w z hm, ?_, fun region hr variant hv hn => ?_,
    Zone.namesFrom none 0 z.shownName, fun others => Zone.search_iff, fun hnil => ?_, fun name hl => ?_⟩
  · rw [hzone]
    exact Zone.abbreviation_eq_nil_or_isShort z.shownName
  · rw [hzone, hn]
    exact (Zone.Abbreviates.long hr hv).abbreviation_eq
  · rw [hnil] at hsearch
    rw [hzone, hsearch.abbreviation_eq_nil]
  · rw [hzone]
    exact hsearch.abbreviates_getLast hl

/-- In this name there are four zones, and one that is part of a longer word. The digits after the second
    zone are too many for an offset. -/
theorem zone_field_of_four_zones :
    let name : Text := "PST, UTC+12345, Eastern Daylight Time (GMT-0400) ESTX"
    let w : WallClock := ⟨⟨2024, 1, 15, by decide⟩, ⟨13, 5, 9, 0, by decide⟩⟩
    let field (f : DateField) := format .universal (.zoned w ⟨some (-14400), some name⟩) (some f.spelling)
    Zone.Search none name ["PST", "UTC", "Eastern Daylight Time", "GMT-0400"]
      ∧ Zone.Abbreviates (field .zone) "GMT-0400" := by
  intro name w field
  have hnames : ["PST", "UTC", "Eastern Daylight Time", "GMT-0400"].map String.toList
      = Zone.namesFrom none 0 name := by
    decide +kernel
  obtain ⟨-, -, -, names, hsearch, -, hlast⟩ :=
    zone_field_forms .universal w ⟨some (-14400), some name⟩
  have hfound := Zone.search_iff.2 hnames
  refine ⟨hfound, hlast _ ?_⟩
  rw [← (hsearch _).1 hfound]
  rfl

/-- The fields of a clock in a zone that is known by its offset only, which is less than a day. It is shown
    as universal time whatever the offset is. This is right just if there is no offset, and the offset that
    is shown beside it says so too just if it is not behind and less than a minute. -/
theorem offset_named_zone_shown (localZone : LocalZone) (w : WallClock) (s : Int)
    (hs : s.natAbs < 86400) (z : Zone) (ho : z.offset = some s) (hn : z.shownName = Zone.offsetName s) :
    let field (f : DateField) := format localZone (.zoned w z) (some f.spelling)
    (∀ mask, (mode (resolve mask)).1 = .own →
        format localZone (.zoned w z) mask
          = (pieces (mode (resolve mask)).2).flatMap (Piece.filled field))
      ∧ field .zone = "UTC"
      ∧ ((field .zone = "UTC" → s = 0) ↔ s = 0)
      ∧ ((field .zone = "UTC" → field .offset = "+0000") ↔ 0 ≤ s ∧ s < 60) := by
  intro field
  have hzone : field .zone = "UTC".toList := by
    have hutc : Zone.Abbreviates "UTC" "UTC" := .short (.universal (by decide))
    have hshown : field .zone = Zone.abbreviation z.shownName :=
      format_zoned_spelling localZone w z .zone
    rw [hshown, hn, (Zone.search_offsetName hs).abbreviation_eq rfl hutc]
  have hoffset : field .offset = DateField.offsetText s := format_zoned_offset localZone w ho
  refine ⟨fun mask hm => format_zoned_eq_filled localZone w z hm, hzone,
    forall_prop_of_true hzone, (forall_prop_of_true hzone).trans ?_⟩
  rw [hoffset]
  exact DateField.offsetText_eq_zero_iff s

/-- A clock that is almost a minute behind. -/
theorem offset_named_zone_shown_behind :
    let w : WallClock := ⟨⟨2024, 2, 29, by decide⟩, ⟨0, 0, 0, 0, by decide⟩⟩
    let z : Zone := ⟨some (-59), none⟩
    let field (f : DateField) := format .universal (.zoned w z) (some f.spelling)
    ((-59 : Int).natAbs < 86400 ∧ z.offset = some (-59) ∧ z.shownName = Zone.offsetName (-59))
      ∧ z.shownName = "UTC-00:00:59".toList
      ∧ field .zone = "UTC"
      ∧ ¬ (field .zone = "UTC" → field .offset = "+0000") := by
  intro w z field
  obtain ⟨-, hzone, -, hagree⟩ :=
    offset_named_zone_shown .universal w (-59) (by decide) z rfl rfl
  exact ⟨⟨by decide, rfl, rfl⟩, by decide, hzone, mt hagree.1 (by decide)⟩

/-- A clock in a zone that is five and a half hours ahead is shown as one in universal time, beside its
    offset. -/
theorem universal_time_shown_beside_offset :
    let w : WallClock := ⟨⟨2024, 1, 15, by decide⟩, ⟨13, 5, 9, 0, by decide⟩⟩
    let z : Zone := ⟨some 19800, none⟩
    let shown (m : Text) := format .universal (.zoned w z) (some m)
    z.shownName = "UTC+05:30".toList
      ∧ ¬ (shown "Z" = "UTC" → z.offset = some 0)
      ∧ shown "Z o" = "UTC +0530".toList := by
  decide +kernel

end DatePattern
end EventLog

import EventLog.Proofs.DatePattern.ZoneField

set_option autoImplicit false

/-! # Offsets are read back as they were shown

The offset of a zone is shown as a sign and four digits, two for the hours and two for the minutes of an
hour, all of them from one number in which an hour counts a hundred. Since the minutes stay below a
hundred, the two do not run into each other (`ofNatPadded_hundreds`), and what is read back is the offset
in full minutes, rounded down (`offset_field_decodes`). So half a minute behind is shown as a whole one,
`-0001`, and almost a day behind as `-2400`. -/

namespace EventLog

namespace Text

/-! ## The last digits of a numeral -/

theorem padLeft_concat (fill : Char) (width : Nat) (t : Text) (c : Char) :
    padLeft fill (width + 1) (t ++ [c]) = padLeft fill width t ++ [c] := by
  simp [padLeft]

/-- The last digit of a numeral of at least two digits. -/
theorem ofNatPadded_concat (width n : Nat) :
    ofNatPadded (width + 2) n = ofNatPadded (width + 1) (n / 10) ++ [Nat.digitChar (n % 10)] := by
  rw [ofNatPadded, ofNatPadded, ofNat, ofNat]
  by_cases h : n < 10
  · -- the digit in front of the last one is a zero on both sides: here it fills up, there it is the numeral
    rw [Nat.toDigits_of_lt_base h, Nat.div_eq_of_lt h, Nat.mod_eq_of_lt h]
    show List.replicate (width + 1) '0' ++ _ = List.replicate width '0' ++ ['0'] ++ _
    rw [List.replicate_succ']
  · rw [Nat.toDigits_of_base_le (by decide) (by omega), padLeft_concat]

/-- The last two digits tell what is left over of a hundred. -/
theorem ofNatPadded_hundreds (n : Nat) {m : Nat} (h : m < 100) :
    ofNatPadded 4 (n * 100 + m) = ofNatPadded 2 n ++ ofNatPadded 2 m := by
  have hones : (n * 100 + m) % 10 = m % 10 := by omega
  have htens : (n * 100 + m) / 10 % 10 = m / 10 := by omega
  have hhundreds : (n * 100 + m) / 10 / 10 = n := by omega
  have htwo : ofNatPadded 2 m = [Nat.digitChar (m / 10), Nat.digitChar (m % 10)] := by
    rw [ofNatPadded_concat, ofNatPadded, ofNat, Nat.toDigits_of_lt_base (by omega)]
    rfl
  rw [ofNatPadded_concat 2, ofNatPadded_concat 1, hones, htens, hhundreds, htwo, List.append_assoc,
    List.singleton_append]

end Text

namespace DateField

/-! ## Hours and minutes -/

/-- A number below a hundred is shown as two digits that tell it. -/
theorem exists_padded_eq {n : Nat} (h : n < 100) :
    ∃ a b : Char, padded n = [a, b] ∧ (∀ c ∈ [a, b], c.isDigit = true) ∧ Text.toNat [a, b] = n := by
  obtain ⟨a, b, hab⟩ := List.length_eq_two.1 (length_padded h)
  refine ⟨a, b, hab, ?_, ?_⟩
  · rw [← hab]
    exact fun _ => Text.isDigit_of_mem_ofNatPadded
  · rw [← hab, padded, Text.toNat_ofNatPadded]

/-- Hours and minutes stand one after the other, behind a sign for the direction. -/
theorem offsetText_eq (s : Int) :
    offsetText s = (if s < 0 then '-' else '+')
      :: (padded ((s / 60).natAbs / 60) ++ padded ((s / 60).natAbs % 60)) := by
  have hsign : s / 60 < 0 ↔ s < 0 := by omega
  have hminutes : (s / 60).natAbs % 60 < 100 := by omega
  simp only [offsetText, hsign]
  rw [Text.ofNatPadded_hundreds _ hminutes]
  rfl

end DateField

namespace DatePattern

/-- The offset of a clock in a zone that is less than a day ahead or behind, shown on its own and in every
    pattern that has no mark for universal time:

    1. It is a sign and four digits, two for the hours and two for the minutes of an hour, of which there
       are at most 59.
    2. The sign is a minus just if the clock is behind.
    3. Sign, hours and minutes together tell the offset in full minutes, rounded down. So they tell the
       offset itself just if it is made up of full minutes, and then there are less than 24 hours. -/
theorem offset_field_decodes (localZone : LocalZone) (w : WallClock) (z : Zone) (s : Int)
    (ho : z.offset = some s) (hs : s.natAbs < 86400) :
    let field (f : DateField) := format localZone (.zoned w z) (some f.spelling)
    (∀ mask, (mode (resolve mask)).1 = .own →
        format localZone (.zoned w z) mask
          = (pieces (mode (resolve mask)).2).flatMap (Piece.filled field))
      ∧ ∃ sign h₁ h₂ m₁ m₂ : Char,
        let hours := Text.toNat [h₁, h₂]
        let minutes := Text.toNat [m₁, m₂]
        let told : Int := (if sign = '-' then -1 else 1) * (60 * hours + minutes)
        field .offset = [sign, h₁, h₂, m₁, m₂]
          ∧ (sign = '+' ∨ sign = '-') ∧ (∀ c ∈ [h₁, h₂, m₁, m₂], c.isDigit = true)
          ∧ minutes ≤ 59
          ∧ (sign = '-' ↔ s < 0)
          ∧ told = s / 60
          ∧ (60 * told = s ↔ 60 ∣ s)
          ∧ (60 ∣ s → hours ≤ 23) := by
  intro field
  have hfield : field .offset = DateField.offsetText s := format_zoned_offset localZone w ho
  refine ⟨fun mask hm => format_zoned_eq_filled localZone w z hm, ?_⟩
  obtain ⟨h₁, h₂, hhours, hhourDigits, hhoursTold⟩ :=
    DateField.exists_padded_eq (show (s / 60).natAbs / 60 < 100 by omega)
  obtain ⟨m₁, m₂, hminutes, hminuteDigits, hminutesTold⟩ :=
    DateField.exists_padded_eq (show (s / 60).natAbs % 60 < 100 by omega)
  have hsign : ((if s < 0 then '-' else '+') = '-') ↔ s < 0 := by
    by_cases h : s < 0 <;> simp [h]
  have hdigits : ∀ c ∈ [h₁, h₂] ++ [m₁, m₂], c.isDigit = true :=
    List.forall_mem_append.2 ⟨hhourDigits, hminuteDigits⟩
  have htold : (if s < 0 then -1 else 1) * (60 * ((s / 60).natAbs / 60 : Nat)
      + ((s / 60).natAbs % 60 : Nat) : Int) = s / 60 := by
    split <;> omega
  refine ⟨if s < 0 then '-' else '+', h₁, h₂, m₁, m₂, ?_⟩
  dsimp only
  rw [hhoursTold, hminutesTold]
  simp only [hsign, htold]
  refine ⟨?_, ?_, hdigits, by omega, trivial, trivial, by omega, by omega⟩
  · rw [hfield, DateField.offsetText_eq, hhours, hminutes]
    rfl
  · by_cases h : s < 0 <;> simp [h]

/-- A clock that is almost a day behind is shown as a whole one, so its offset is not told. -/
theorem offset_field_of_almost_a_day :
    let w : WallClock := ⟨⟨2024, 2, 29, by decide⟩, ⟨0, 0, 0, 0, by decide⟩⟩
    let z : Zone := ⟨some (-86399), some "MART"⟩
    let field (f : DateField) := format .universal (.zoned w z) (some f.spelling)
    (z.offset = some (-86399) ∧ (-86399 : Int).natAbs < 86400)
      ∧ field .offset = "-2400".toList
      ∧ ∃ h₁ h₂ m₁ m₂ : Char, field .offset = ['-', h₁, h₂, m₁, m₂]
        ∧ 60 * Text.toNat [h₁, h₂] + Text.toNat [m₁, m₂] = 1440 := by
  intro w z field
  obtain ⟨-, sign, h₁, h₂, m₁, m₂, hshown, -, -, -, hsign, htold, -⟩ :=
    offset_field_decodes .universal w z (-86399) rfl (by decide)
  obtain rfl : sign = '-' := hsign.2 (by decide)
  refine ⟨⟨rfl, by decide⟩, by decide, h₁, h₂, m₁, m₂, hshown, ?_⟩
  rw [if_pos rfl] at htold
  omega

end DatePattern
end EventLog

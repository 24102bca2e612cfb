import EventLog.Path

set_option autoImplicit false

/-! # Paths below a directory

The text of an absolute path tells its slashes and its parts. So a path whose text starts with that of a
directory and one more slash has all parts of the directory, and the rest of the text is its other parts
(`relativeTo?_text_eq_some_iff`). This needs a directory that has a part: the text of a root directory ends
with a slash already, and no path with as many slashes starts with this text and one more
(`relativeTo?_of_root`). -/

namespace EventLog

/-! ## Slashes and parts of a text -/

namespace Text

/-- As many `c` as a text starts with, it has in front of what does not start with a `c`. -/
theorem le_of_replicate_append_eq {c : Char} {m n : Nat} {t u : Text} (ht : t.head? ≠ some c)
    (h : List.replicate m c ++ t = List.replicate n c ++ u) : n ≤ m := by
  induction n generalizing m with
  | zero => exact Nat.zero_le m
  | succ n ih =>
      rcases m with _ | m
      · have ht' : t = c :: (List.replicate n c ++ u) := h
        simp [ht'] at ht
      · exact Nat.succ_le_succ (ih (List.cons.inj h).2)

theorem replicate_append_inj {c : Char} {m n : Nat} {t u : Text} (ht : t.head? ≠ some c)
    (hu : u.head? ≠ some c) (h : List.replicate m c ++ t = List.replicate n c ++ u) :
    m = n ∧ t = u := by
  have hmn : m = n :=
    Nat.le_antisymm (le_of_replicate_append_eq hu h.symm) (le_of_replicate_append_eq ht h)
  subst hmn
  exact ⟨rfl, List.append_cancel_left h⟩

/-- A text without empty parts is not empty and starts with no separator. -/
theorem head?_ne_of_parts_ne_nil {sep : Char} {t : Text} (h : ∀ part ∈ parts sep t, part ≠ []) :
    t ≠ [] ∧ t.head? ≠ some sep := by
  constructor
  · rintro rfl
    exact h [] (by simp [parts, cut]) rfl
  · intro ht
    obtain ⟨rest, rfl⟩ := List.head?_eq_some_iff.1 ht
    exact h [] (by simp [parts, cut]) rfl

end Text

namespace Path

theorem slash_not_mem_part (p : Path) : ∀ part ∈ p.parts, '/' ∉ part :=
  fun part hm => (p.proper part hm).2.2.2

/-- What follows the slashes of a path starts with its first part, if it has one. -/
theorem head?_join_parts_append (p : Path) {more : Text} (h : p.parts ≠ [] ∨ more.head? ≠ some '/') :
    (Text.join ['/'] p.parts ++ more).head? ≠ some '/' := by
  rcases hp : p.parts with _ | ⟨part, rest⟩
  · simpa [Text.join, hp] using h
  · obtain ⟨hne, -, -, hslash⟩ := p.proper part (by simp [hp])
    obtain ⟨c, name, rfl⟩ := List.exists_cons_of_ne_nil hne
    have hc : c ≠ '/' := fun e => hslash (by simp [e])
    rw [Text.join_eq_mend]
    simp [Text.mend, hc]

theorem head?_join_parts (p : Path) : (Text.join ['/'] p.parts).head? ≠ some '/' := by
  have h := p.head?_join_parts_append (Or.inr (by simp : ([] : Text).head? ≠ some '/'))
  rwa [List.append_nil] at h

/-! ## What follows a directory -/

/-- A text goes on behind a directory and a slash just if it is a path with all parts of the directory. -/
theorem relativeTo?_text_eq_some_iff {p base : Path} {rest : Text} (hb : base.parts ≠ []) :
    relativeTo? base.text p.text = some rest
      ↔ p.slashes = base.slashes ∧ p.parts = base.parts ++ Text.parts '/' rest := by
  rw [relativeTo?_eq_some_iff, text, text, List.append_assoc]
  constructor
  · intro h
    obtain ⟨hs, hj⟩ := Text.replicate_append_inj p.head?_join_parts
      (base.head?_join_parts_append (Or.inl hb)) h
    have hne : p.parts ≠ [] := by
      intro hn
      simp [hn, Text.join] at hj
    refine ⟨hs, ?_⟩
    rw [← Text.parts_join '/' hne p.slash_not_mem_part, hj, Text.parts_append_sep,
      Text.parts_join '/' hb base.slash_not_mem_part]
  · rintro ⟨hs, hp⟩
    rw [hs, hp, Text.join_append ['/'] hb (Text.parts_ne_nil '/' rest), Text.join_parts]
    simp

/-- Of a path below a directory, the parts that the directory does not have follow it. -/
theorem relativeTo?_of_isBelow {p base : Path} {part : Text} {rest : List Text}
    (hb : base.parts ≠ []) (hs : p.slashes = base.slashes) (hp : p.parts = base.parts ++ part :: rest) :
    relativeTo? base.text p.text = some (Text.join ['/'] (part :: rest)) := by
  have hslash : ∀ q ∈ part :: rest, '/' ∉ q := fun q hq =>
    p.slash_not_mem_part q (by rw [hp]; exact List.mem_append_right _ hq)
  rw [relativeTo?_text_eq_some_iff hb, Text.parts_join '/' (List.cons_ne_nil part rest) hslash]
  exact ⟨hs, hp⟩

/-- Only a path with more slashes starts with a root directory and a slash. -/
theorem relativeTo?_of_root {p base : Path} (hb : base.parts = []) (hs : p.slashes ≤ base.slashes) :
    relativeTo? base.text p.text = none := by
  rw [Option.eq_none_iff_forall_ne_some]
  intro rest hr
  have hroot : base.text ++ '/' :: rest = List.replicate (base.slashes + 1) '/' ++ rest := by
    rw [text, hb, List.replicate_succ']
    simp [Text.join]
  rw [relativeTo?_eq_some_iff, hroot] at hr
  have hle : base.slashes + 1 ≤ p.slashes := Text.le_of_replicate_append_eq p.head?_join_parts hr
  omega

/-- What follows a directory other than `/` is a relative path without detours, and the whole lies below the
    directory. -/
theorem isBelow_of_relativeTo? {p base : Path} {name : Text} (hr : base.text ≠ ['/'])
    (h : relativeTo? base.text p.text = some name) :
    p.IsBelow base ∧ ∀ part ∈ Text.parts '/' name, IsProperPart part := by
  have hb : base.parts ≠ [] := by
    intro hb
    have hone : ¬ base.slashes = 1 := fun hone => hr (by simp [text, hb, hone, Text.join])
    have hle : p.slashes ≤ base.slashes := by
      have := base.slashes_pos
      have := p.slashes_le
      omega
    rw [relativeTo?_of_root hb hle] at h
    cases h
  obtain ⟨hs, hp⟩ := (relativeTo?_text_eq_some_iff hb).1 h
  exact ⟨⟨hs, _, _, hp⟩, fun part hm => p.proper part (hp ▸ List.mem_append_right _ hm)⟩

end Path
end EventLog

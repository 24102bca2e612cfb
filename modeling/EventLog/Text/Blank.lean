import EventLog.Text

set_option autoImplicit false

/-! # Blank characters

The white space that surrounds a rendered message or a level name is not part of it. White space
means the separators of all scripts, the control characters that move the pen, and the four
information separators; `strip` removes it from both ends and leaves the inside alone. -/

namespace EventLog.Text

/-- Whether the character is white space. -/
def isBlank (c : Char) : Bool :=
  let n := c.toNat
  (0x09 ≤ n && n ≤ 0x0D) || (0x1C ≤ n && n ≤ 0x20) || n == 0x85 || n == 0xA0 || n == 0x1680
    || (0x2000 ≤ n && n ≤ 0x200A) || n == 0x2028 || n == 0x2029 || n == 0x202F || n == 0x205F
    || n == 0x3000

/-- The text without the white space at its start and at its end. -/
def strip (t : Text) : Text :=
  dropEndWhile isBlank (t.dropWhile isBlank)

/-- What `dropEndWhile` takes away is the end of the text that satisfies `p`. -/
theorem dropEndWhile_append (p : Char → Bool) (t : Text) :
    dropEndWhile p t ++ (t.reverse.takeWhile p).reverse = t := by
  rw [dropEndWhile, ← List.reverse_append, List.takeWhile_append_dropWhile, List.reverse_reverse]

/-- Stripping takes away white space at both ends and nothing else. -/
theorem exists_eq_append_strip (t : Text) :
    ∃ left right, t = left ++ strip t ++ right
      ∧ (∀ c ∈ left, isBlank c = true) ∧ ∀ c ∈ right, isBlank c = true := by
  have hall : ∀ u : Text, ∀ c ∈ u.takeWhile isBlank, isBlank c = true :=
    fun u => List.all_eq_true.1 List.all_takeWhile
  refine ⟨t.takeWhile isBlank, ((t.dropWhile isBlank).reverse.takeWhile isBlank).reverse, ?_,
    hall t, fun c m => hall _ c (List.mem_reverse.1 m)⟩
  rw [strip, List.append_assoc, dropEndWhile_append, List.takeWhile_append_dropWhile]

theorem isBlank_head_dropWhile {t : Text} {c : Char} (h : c ∈ (t.dropWhile isBlank).head?) :
    isBlank c = false := by
  have hhead := List.head?_dropWhile_not isBlank t
  rw [Option.mem_def.1 h] at hhead
  exact hhead

/-- No white space is left at either end. -/
theorem isBlank_ends_strip (t : Text) {c : Char}
    (h : c ∈ (strip t).head? ∨ c ∈ (strip t).getLast?) : isBlank c = false := by
  rcases h with h | h
  · -- the first character that is left was the first one before the end was taken away
    refine isBlank_head_dropWhile (t := t) ?_
    rw [← dropEndWhile_append isBlank (t.dropWhile isBlank), List.head?_append, ← strip,
      Option.mem_def.1 h]
    rfl
  · rw [strip, dropEndWhile, List.getLast?_reverse] at h
    exact isBlank_head_dropWhile h

end EventLog.Text

set_option autoImplicit false

/-! # Text: lists of characters and how they are cut

Everything the library reads or writes is a list of characters. A layout, a path and a message are
all taken apart in the same way: at every occurrence of one separating character. `Text.cut` does
this and `Text.mend` undoes it; `mend_cut` and `cut_mend` say that nothing is lost either way, and
`cut_append_sep` that the cut of a longer text is the cut of its two halves. -/

namespace EventLog

/-- A text is the list of its characters. -/
abbrev Text := List Char

instance : Coe String Text := ⟨String.toList⟩

namespace Text

/-! ## Cutting at a separator -/

/-- The part before the first separator, and the parts that follow each separator. -/
def cut (sep : Char) : Text → Text × List Text
  | [] => ([], [])
  | c :: rest =>
      let (first, others) := cut sep rest
      if c = sep then ([], first :: others) else (c :: first, others)

/-- The text whose parts these are: each later part is put back after a separator. -/
def mend (sep : Char) (parts : Text × List Text) : Text :=
  parts.1 ++ parts.2.flatMap (sep :: ·)

@[simp] theorem mend_cut (sep : Char) (t : Text) : mend sep (cut sep t) = t := by
  induction t with
  | nil => rfl
  | cons c rest ih =>
      by_cases h : c = sep
      · simpa [cut, mend, h] using ih
      · simpa [cut, mend, h] using ih

/-- A part holds no separator. -/
theorem not_mem_cut_fst (sep : Char) (t : Text) : sep ∉ (cut sep t).1 := by
  induction t with
  | nil => simp [cut]
  | cons c rest ih =>
      by_cases h : c = sep
      · simp [cut, h]
      · simp [cut, h, ih, Ne.symm h]

theorem not_mem_of_mem_cut_snd (sep : Char) (t : Text) : ∀ p ∈ (cut sep t).2, sep ∉ p := by
  induction t with
  | nil => simp [cut]
  | cons c rest ih =>
      by_cases h : c = sep
      · simpa [cut, h] using ⟨not_mem_cut_fst sep rest, ih⟩
      · simpa [cut, h] using ih

/-- A text without the separator is its only part. -/
theorem cut_eq_self (sep : Char) (t : Text) (h : sep ∉ t) : cut sep t = (t, []) := by
  induction t with
  | nil => rfl
  | cons c rest ih =>
      have hc : c ≠ sep := fun e => h (by simp [e])
      have hr : sep ∉ rest := fun m => h (List.mem_cons_of_mem _ m)
      simp [cut, hc, ih hr]

/-- Cutting at a separator in the middle cuts both halves on their own. -/
theorem cut_append_sep (sep : Char) (a b : Text) :
    cut sep (a ++ sep :: b)
      = ((cut sep a).1, (cut sep a).2 ++ (cut sep b).1 :: (cut sep b).2) := by
  induction a with
  | nil => simp [cut]
  | cons c rest ih =>
      by_cases h : c = sep
      · simp [cut, h, ih]
      · simp [cut, h, ih]

/-- Parts that hold no separator are found again in the text that is put together from them. -/
theorem cut_mend (sep : Char) (first : Text) (others : List Text) (hf : sep ∉ first)
    (ho : ∀ p ∈ others, sep ∉ p) : cut sep (mend sep (first, others)) = (first, others) := by
  induction others generalizing first with
  | nil => simpa [mend] using cut_eq_self sep first hf
  | cons p rest ih =>
      have hp : cut sep (mend sep (p, rest)) = (p, rest) :=
        ih p (ho p (by simp)) fun q hq => ho q (List.mem_cons_of_mem _ hq)
      have hm : mend sep (first, p :: rest) = first ++ sep :: mend sep (p, rest) := by
        simp [mend]
      rw [hm, cut_append_sep, cut_eq_self sep first hf, hp]
      rfl

/-! ## Joining and trimming -/

/-- All parts of the cut in one list. -/
def parts (sep : Char) (t : Text) : List Text :=
  (cut sep t).1 :: (cut sep t).2

/-- The lines of a text; a text without a line feed is one line. -/
def lines (t : Text) : List Text :=
  parts '\n' t

/-- The texts in order with a separating text between neighbours. -/
def join (sep : Text) : List Text → Text
  | [] => []
  | [t] => t
  | t :: u :: rest => t ++ sep ++ join sep (u :: rest)

theorem parts_ne_nil (sep : Char) (t : Text) : parts sep t ≠ [] :=
  List.cons_ne_nil _ _

theorem not_mem_of_mem_parts (sep : Char) (t : Text) : ∀ p ∈ parts sep t, sep ∉ p :=
  List.forall_mem_cons.2 ⟨not_mem_cut_fst sep t, not_mem_of_mem_cut_snd sep t⟩

theorem parts_append_sep (sep : Char) (a b : Text) :
    parts sep (a ++ sep :: b) = parts sep a ++ parts sep b := by
  simp only [parts, cut_append_sep, List.cons_append]

theorem join_cons (sep t : Text) {rest : List Text} (h : rest ≠ []) :
    join sep (t :: rest) = t ++ sep ++ join sep rest := by
  cases rest with
  | nil => exact absurd rfl h
  | cons u rest => rfl

theorem join_append (sep : Text) {a b : List Text} (ha : a ≠ []) (hb : b ≠ []) :
    join sep (a ++ b) = join sep a ++ sep ++ join sep b := by
  induction a with
  | nil => exact absurd rfl ha
  | cons t rest ih =>
      by_cases hr : rest = []
      · subst hr
        exact join_cons sep t hb
      · rw [List.cons_append, join_cons sep t (by simp [hr]), ih hr, join_cons sep t hr]
        simp only [List.append_assoc]

theorem join_eq_mend (sep : Char) (first : Text) (others : List Text) :
    join [sep] (first :: others) = mend sep (first, others) := by
  induction others generalizing first with
  | nil => simp [join, mend]
  | cons t rest ih =>
      rw [join_cons [sep] first (List.cons_ne_nil t rest), ih]
      simp [mend]

/-- Parts that are joined again make up the text. -/
theorem join_parts (sep : Char) (t : Text) : join [sep] (parts sep t) = t := by
  rw [parts, join_eq_mend, mend_cut]

/-- Texts that hold no separator are the parts of the text that they are joined to. -/
theorem parts_join (sep : Char) {ts : List Text} (h : ts ≠ []) (hn : ∀ p ∈ ts, sep ∉ p) :
    parts sep (join [sep] ts) = ts := by
  cases ts with
  | nil => exact absurd rfl h
  | cons first others =>
      obtain ⟨hf, ho⟩ := List.forall_mem_cons.1 hn
      rw [join_eq_mend, parts, cut_mend sep first others hf ho]

/-- The text without the characters at its end that satisfy `p`. -/
def dropEndWhile (p : Char → Bool) (t : Text) : Text :=
  (t.reverse.dropWhile p).reverse

/-- A text with a `c` in it is the part before the first `c`, the `c`, and the rest. -/
theorem exists_eq_takeWhile_append (c : Char) (t : Text) (h : c ∈ t) :
    ∃ u, t = t.takeWhile (· ≠ c) ++ c :: u := by
  induction t with
  | nil => simp at h
  | cons d rest ih =>
      by_cases hd : d = c
      · exact ⟨rest, by simp [hd]⟩
      · have hr : c ∈ rest := by
          rcases List.mem_cons.1 h with e | e
          · exact absurd e.symm hd
          · exact e
        obtain ⟨u, hu⟩ := ih hr
        refine ⟨u, ?_⟩
        rw [List.takeWhile_cons_of_pos (by simp [hd]), List.cons_append, ← hu]

/-- What follows the last `c` of the text, if there is one. -/
def afterLast? (c : Char) : Text → Option Text
  | [] => none
  | d :: rest => (afterLast? c rest).or (if d = c then some rest else none)

theorem afterLast?_eq_none_iff (c : Char) (t : Text) : afterLast? c t = none ↔ c ∉ t := by
  induction t with
  | nil => simp [afterLast?]
  | cons d rest ih =>
      by_cases h : d = c
      · simp [afterLast?, h]
      · simp [afterLast?, h, ih, Ne.symm h]

/-- The last `c` of a text is the one that no other follows. -/
theorem afterLast?_append_cons (c : Char) (a b : Text) (h : c ∉ b) :
    afterLast? c (a ++ c :: b) = some b := by
  induction a with
  | nil => simp [afterLast?, (afterLast?_eq_none_iff c b).2 h]
  | cons d rest ih => simp [afterLast?, ih]

/-! ## Classes of characters -/

/-- Whether the number lies in one of the ranges, both ends included. -/
def inRanges (ranges : List (Nat × Nat)) (n : Nat) : Bool :=
  ranges.any fun r => r.1 ≤ n && n ≤ r.2

/-- Whether the character is one of the 52 unaccented letters. -/
def isLetter (c : Char) : Bool :=
  ('a' ≤ c && c ≤ 'z') || ('A' ≤ c && c ≤ 'Z')

/-- No other character is among letters. -/
theorem not_mem_of_letters {c : Char} {t : Text} (hc : isLetter c = false)
    (h : t.all isLetter = true) : c ∉ t :=
  fun m => absurd (List.all_eq_true.1 h c m) (by simp [hc])

/-- Whether the text has a character. -/
def isPresent : Option Text → Bool
  | none | some [] => false
  | some (_ :: _) => true

end Text
end EventLog

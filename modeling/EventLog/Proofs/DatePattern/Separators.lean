import EventLog.DatePattern

set_option autoImplicit false

/-! # Separators in date patterns

What a character of a pattern stands for depends on what follows it: a second `d` makes another field of
the first one, and a quote protects a text only if a second quote comes. A separator ends this dependence.
It is a character that no field is spelled with, or a quoted text. Nothing before it goes on into it, if
no quote is open there, and nothing of it goes on into what comes after it. So a pattern with a separator
in it is shown as its two parts are on their own, with the separator as it is between them
(`render_separated`). A quote that is not closed separates as well, and the fields after it are shown. -/

namespace EventLog.DatePattern

/-! ## Where a piece ends -/

/-- The letters that fields are spelled with. -/
def fieldLetters : Text := "dMyHhmsaAoSZ"

theorem mem_fieldLetters (f : DateField) : ∀ c ∈ f.spelling, c ∈ fieldLetters := by
  have h : f.spelling.all fieldLetters.contains = true := by cases f <;> decide
  simpa using h

/-- Whether no field goes on into the text: it is empty, or no field is spelled with its first
    character. -/
def EndsField (t : Text) : Prop :=
  ∀ c ∈ t.head?, c ∉ fieldLetters

/-- A prefix that does not go on into what follows a text is a prefix of the text itself. -/
theorem isPrefixOf_append_eq {s : Text} (t v : Text) (h : ∀ c ∈ v.head?, c ∉ s) :
    s.isPrefixOf (t ++ v) = s.isPrefixOf t := by
  induction s generalizing t with
  | nil => simp
  | cons x s ih =>
      cases t with
      | nil =>
          cases v with
          | nil => rfl
          | cons b v =>
              have hb : ¬ x = b := fun e => h b rfl (by simp [e])
              simp [List.isPrefixOf, hb]
      | cons y t =>
          have hs : ∀ c ∈ v.head?, c ∉ s := fun c hc hm => h c hc (List.mem_cons_of_mem _ hm)
          simp only [List.cons_append, List.isPrefixOf, ih t hs]

theorem atStart?_append (t v : Text) (hv : EndsField v) :
    DateField.atStart? (t ++ v) = DateField.atStart? t := by
  have hp : (fun f : DateField => f.spelling.isPrefixOf (t ++ v))
      = fun f => f.spelling.isPrefixOf t := by
    funext f
    exact isPrefixOf_append_eq t v fun c hc hm => hv c hc (mem_fieldLetters f c hm)
  rw [DateField.atStart?, DateField.atStart?, hp]

/-- No field starts with a character that no field is spelled with. -/
theorem atStart?_eq_none {c : Char} (hc : c ∉ fieldLetters) (rest : Text) :
    DateField.atStart? (c :: rest) = none := by
  have hv : EndsField (c :: rest) := by
    intro d hd
    obtain rfl : c = d := by simpa using hd
    exact hc
  exact atStart?_append [] (c :: rest) hv

theorem quotedAt?_of_ne {c : Char} (hc : c ≠ '\x27') (rest : Text) :
    quotedAt? (c :: rest) = none := by
  unfold quotedAt?
  split
  · simp_all
  · rfl

/-- A quoted text ends with the first quote after the one that starts it. -/
theorem quotedAt?_closed {u : Text} (hu : '\x27' ∉ u) (v : Text) :
    quotedAt? ('\x27' :: (u ++ '\x27' :: v)) = some ('\x27' :: (u ++ ['\x27'])) := by
  have hne : ∀ c ∈ u, decide (c ≠ '\x27') = true := by
    intro c hc
    rw [decide_eq_true_eq]
    rintro rfl
    exact hu hc
  have ht : (u ++ '\x27' :: v).takeWhile (· ≠ '\x27') = u := by
    rw [List.takeWhile_append_of_pos hne]
    simp
  simp only [quotedAt?]
  rw [if_pos (by simp), ht]

theorem quotedAt?_unclosed {rest : Text} (h : '\x27' ∉ rest) : quotedAt? ('\x27' :: rest) = none := by
  simp only [quotedAt?]
  rw [if_neg h]

/-- The piece at the start of a text does not depend on what follows the text, if it ends there and no
    quote is open. -/
theorem pieceAt_append (c : Char) (rest v : Text) (hv : EndsField v)
    (hq : c = '\x27' → '\x27' ∈ rest) : pieceAt c (rest ++ v) = pieceAt c rest := by
  have hquoted : quotedAt? (c :: (rest ++ v)) = quotedAt? (c :: rest) := by
    by_cases hc : c = '\x27'
    · obtain ⟨u, w, rfl, hu⟩ := List.eq_append_cons_of_mem (hq hc)
      rw [hc, List.append_assoc, List.cons_append, quotedAt?_closed hu, quotedAt?_closed hu]
    · rw [quotedAt?_of_ne hc, quotedAt?_of_ne hc]
  rw [pieceAt, pieceAt, ← List.cons_append, atStart?_append _ v hv, List.cons_append, hquoted]

/-! ## The pieces of two parts -/

/-- The first piece of a text is followed by the pieces of the rest. -/
theorem exists_pieces_cons (c : Char) (rest : Text) :
    ∃ u, c :: rest = (pieceAt c rest).spelling ++ u ∧ pieces (c :: rest) = pieceAt c rest :: pieces u := by
  obtain ⟨⟨u, hu⟩, hne⟩ := pieceAt_isPrefix c rest
  refine ⟨u, hu.symm, ?_⟩
  rw [pieces, piecesFrom, piecesFrom_eq_drop]
  obtain ⟨d, s, hs⟩ := List.exists_cons_of_ne_nil hne
  rw [hs, List.cons_append, List.cons.injEq] at hu
  rw [hs, ← hu.2, List.length_cons, Nat.add_sub_cancel, List.drop_left]

/-- A piece closes every quote that it opens. -/
theorem even_quotes_pieceAt (c : Char) (rest : Text) (hq : c = '\x27' → '\x27' ∈ rest) :
    2 ∣ (pieceAt c rest).spelling.count '\x27' := by
  have hquote : '\x27' ∉ fieldLetters := by decide
  by_cases hc : c = '\x27'
  · obtain ⟨u, w, rfl, hu⟩ := List.eq_append_cons_of_mem (hq hc)
    have hcount : u.count '\x27' = 0 := List.count_eq_zero.2 hu
    rw [hc, pieceAt, atStart?_eq_none hquote, quotedAt?_closed hu]
    simp [Piece.spelling, hcount]
  · have hnone : '\x27' ∉ (pieceAt c rest).spelling := by
      unfold pieceAt
      split
      · rename_i f hf
        exact fun hm => hquote (mem_fieldLetters f _ hm)
      · rw [quotedAt?_of_ne hc]
        simpa [Piece.spelling] using Ne.symm hc
    simp [List.count_eq_zero.2 hnone]

/-- If no quote of a text is open at its end, and no field goes on into what follows it, then the pieces
    of both are those of the one and those of the other. -/
theorem pieces_append (p v : Text) (hp : 2 ∣ p.count '\x27') (hv : EndsField v) :
    pieces (p ++ v) = pieces p ++ pieces v := by
  induction h : p.length using Nat.strongRecOn generalizing p with
  | ind n ih =>
      cases p with
      | nil => rfl
      | cons c rest =>
          -- with an even number of quotes, one that stands first is not the only one
          have hq : c = '\x27' → '\x27' ∈ rest := by
            rintro rfl
            rw [List.count_cons_self] at hp
            exact List.count_pos_iff.1 (by omega)
          obtain ⟨u, hu, hpieces⟩ := exists_pieces_cons c rest
          obtain ⟨u', hu', hpieces'⟩ := exists_pieces_cons c (rest ++ v)
          rw [pieceAt_append c rest v hv hq] at hu' hpieces'
          have hrest : u' = u ++ v := by
            rw [← List.cons_append, hu, List.append_assoc] at hu'
            exact (List.append_cancel_left hu').symm
          have hlength : u.length < n := by
            have hne := List.length_pos_iff.2 (pieceAt_isPrefix c rest).2
            rw [← h, hu, List.length_append]
            omega
          have hcount : 2 ∣ u.count '\x27' := by
            have heven := even_quotes_pieceAt c rest hq
            rw [hu, List.count_append] at hp
            omega
          rw [List.cons_append, hpieces', hrest, ih u.length hlength u hcount rfl, hpieces]
          rfl

/-! ## Separators -/

/-- A text that separates what comes before it from what comes after it. -/
inductive Separator : Text → Prop
  /-- A character that no field is spelled with, and that is no quote. -/
  | single {c : Char} (hc : c ∉ fieldLetters) (hq : c ≠ '\x27') : Separator [c]
  /-- A quoted text. -/
  | quoted {u : Text} (hu : '\x27' ∉ u) : Separator ('\x27' :: (u ++ ['\x27']))

/-- A known piece at the start of a text is followed by the pieces of the rest. -/
theorem pieces_of_pieceAt {c : Char} {rest u : Text} {piece : Piece} (hp : pieceAt c rest = piece)
    (hu : c :: rest = piece.spelling ++ u) : pieces (c :: rest) = piece :: pieces u := by
  obtain ⟨u', hu', hpieces⟩ := exists_pieces_cons c rest
  rw [hp, hu] at hu'
  rw [hpieces, hp, List.append_cancel_left hu']

/-- A separator is a piece of its own, whatever comes after it. -/
theorem Separator.pieces_append {w : Text} (hw : Separator w) (q : Text) :
    pieces (w ++ q) = .text w :: pieces q := by
  cases hw with
  | single hc hq =>
      refine pieces_of_pieceAt ?_ rfl
      rw [pieceAt, atStart?_eq_none hc, quotedAt?_of_ne hq]
  | @quoted u hu =>
      have ht : ('\x27' :: (u ++ ['\x27'])) ++ q = '\x27' :: (u ++ '\x27' :: q) := by simp
      rw [ht]
      refine pieces_of_pieceAt ?_ ht.symm
      rw [pieceAt, atStart?_eq_none (by decide), quotedAt?_closed hu]

theorem Separator.endsField {w : Text} (hw : Separator w) (q : Text) : EndsField (w ++ q) := by
  intro c hc
  cases hw with
  | single hd hq =>
      obtain rfl := Option.some.inj hc
      exact hd
  | quoted hu =>
      obtain rfl := Option.some.inj hc
      decide

theorem render_append (r : Option Reading) {p v : Text} (hp : 2 ∣ p.count '\x27')
    (hv : EndsField v) : render r (p ++ v) = render r p ++ render r v := by
  rw [render, pieces_append p v hp hv, List.flatMap_append]
  rfl

/-- A timestamp shown by a pattern with a part `p` in front in which no quote is open at the end, on its
    own clock or in universal time, whether it can be read as a date or not:

    1. If a separator follows, what comes after it is shown as if it stood alone, and the separator as it
       is.
    2. A quote that is not closed is shown as it is, and so is what comes after it by its fields. -/
theorem render_separated (localZone : LocalZone) (t : Timestamp) (mode : ClockMode) (p q : Text)
    (hp : 2 ∣ p.count '\x27') :
    let shown (m : Text) := render (t.read? mode localZone) m
    (∀ w, Separator w → shown (p ++ w ++ q) = shown p ++ w ++ shown q)
      ∧ ('\x27' ∉ q → shown (p ++ '\x27' :: q) = shown p ++ '\x27' :: shown q) := by
  intro shown
  constructor
  · intro w hw
    have hshown : shown (w ++ q) = w ++ shown q := by
      simp only [shown, render]
      rw [hw.pieces_append]
      rfl
    simp only [shown, List.append_assoc] at hshown ⊢
    rw [render_append _ hp (hw.endsField q), hshown]
  · intro hq
    have hpieces : pieces ('\x27' :: q) = .text ['\x27'] :: pieces q := by
      refine pieces_of_pieceAt ?_ rfl
      rw [pieceAt, atStart?_eq_none (by decide), quotedAt?_unclosed hq]
    have hv : EndsField ('\x27' :: q) := by
      intro c hc
      obtain rfl := Option.some.inj hc
      decide
    simp only [shown]
    rw [render_append _ hp hv]
    simp only [render]
    rw [hpieces]
    rfl

/-- Half a year spelling and two quoted texts: neither joins the fields next to it, and the quote at the
    end protects nothing. -/
theorem render_separated_by_quoted :
    let clock : WallClock := ⟨⟨2024, 2, 29, by decide⟩, ⟨13, 5, 9, 7000, by decide⟩⟩
    let shown (m : Text) := render (Timestamp.read? .own .universal (.clock clock)) m
    let p : Text := "yyy'd'd"
    2 ∣ p.count '\x27'
      ∧ Separator "'d'"
      ∧ shown (p ++ "'d'" ++ "ddHHH") = "24y'd'29'd'291313".toList
      ∧ shown (p ++ '\x27' :: "mm".toList) = "24y'd'29'05".toList := by
  intro clock shown p
  have hp : 2 ∣ p.count '\x27' := by decide
  have hw : Separator "'d'" := .quoted (u := "d") (by decide)
  have hparts : shown p = "24y'd'29".toList ∧ shown "ddHHH" = "291313".toList
      ∧ shown "mm" = "05".toList := by
    decide
  have hsep := (render_separated .universal (.clock clock) .own p "ddHHH" hp).1 _ hw
  have hopen := (render_separated .universal (.clock clock) .own p "mm" hp).2 (by decide)
  refine ⟨hp, hw, hsep.trans ?_, hopen.trans ?_⟩
  · show shown p ++ _ ++ shown "ddHHH" = _
    rw [hparts.1, hparts.2.1]
    rfl
  · show shown p ++ '\x27' :: shown "mm" = _
    rw [hparts.1, hparts.2.2]
    rfl

end EventLog.DatePattern

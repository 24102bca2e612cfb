import Mathlib.Data.List.Basic
import EventLog.Proofs.DatePattern.Readable
import EventLog.Proofs.DatePattern.Separators

set_option autoImplicit false

/-! # Parts of a pattern

A pattern is split into parts before any date is looked at: from left to right, the longest token that a
value can stand for, else a quoted text, else one character (`Splits`). There is just one such split
(`splits_iff`). A date that can be read puts its values in the place of the tokens, and a date that cannot
puts a question mark there; both leave the other parts as they are (`substitution_at_same_places`). -/

namespace EventLog

namespace DateField

theorem isPrefix_of_atStart? {t : Text} {f : DateField} (h : atStart? t = some f) :
    f.spelling <+: t := by
  have hp := List.find?_some h
  exact List.isPrefixOf_iff_prefix.1 hp

/-- The fields are listed with the longer spellings first, so the first one that fits is the longest. -/
theorem length_le_of_atStart? {t : Text} {f g : DateField} (h : atStart? t = some f)
    (hg : g.spelling <+: t) : g.spelling.length ≤ f.spelling.length := by
  have hsorted : all.Pairwise fun f g => g.spelling.length ≤ f.spelling.length := by decide
  obtain ⟨-, before, after, hall, hbefore⟩ := List.find?_eq_some_iff_append.1 h
  have hmem := g.mem_all
  rw [hall] at hmem hsorted
  rcases List.mem_append.1 hmem with hb | hfa
  · have hno := hbefore g hb
    rw [List.isPrefixOf_iff_prefix.2 hg] at hno
    cases hno
  · rcases List.mem_cons.1 hfa with rfl | ha
    · exact Nat.le_refl _
    · exact List.rel_of_pairwise_cons (List.pairwise_append.1 hsorted).2.1 ha

theorem atStart?_eq_none_iff {t : Text} :
    atStart? t = none ↔ ∀ f : DateField, ¬ f.spelling <+: t := by
  rw [atStart?, List.find?_eq_none]
  constructor
  · exact fun h f hp => h f f.mem_all (List.isPrefixOf_iff_prefix.2 hp)
  · exact fun h f _ hp => h f (List.isPrefixOf_iff_prefix.1 hp)

/-- A field that no longer one fits in the place of is found there. -/
theorem atStart?_of_longest {t : Text} {f : DateField} (hf : f.spelling <+: t)
    (longest : ∀ g : DateField, g.spelling <+: t → g.spelling.length ≤ f.spelling.length) :
    atStart? t = some f := by
  cases h : atStart? t with
  | none => exact absurd hf (atStart?_eq_none_iff.1 h f)
  | some g =>
      have hg := isPrefix_of_atStart? h
      have hlength := Nat.le_antisymm (longest g hg) (length_le_of_atStart? h hf)
      have hs : g.spelling = f.spelling :=
        (List.prefix_of_prefix_length_le hg hf (Nat.le_of_eq hlength)).eq_of_length hlength
      rw [spelling_injective g g.mem_all f f.mem_all hs]

end DateField

namespace DatePattern

/-! ## Tokens -/

/-- The texts that a value can stand for. -/
def valueTokens : List Text :=
  ["d", "dd", "ddd", "dddd", "M", "MM", "MMM", "MMMM", "yy", "yyyy", "h", "hh", "H", "HH", "m", "mm",
    "s", "ss", "S", "a", "aa", "A", "AA", "Z", "o"]

/-- The values of a date with the texts that they stand for. -/
def values (r : Reading) : List (Text × Text) :=
  DateField.all.map fun f => (f.spelling, f.text r)

/-- The two tables have the same texts. -/
theorem mem_valueTokens_iff (t : Text) : t ∈ valueTokens ↔ ∃ f : DateField, f.spelling = t := by
  constructor
  · have h : ∀ t ∈ valueTokens, ∃ f ∈ DateField.all, f.spelling = t := by decide
    intro ht
    obtain ⟨f, -, hf⟩ := h t ht
    exact ⟨f, hf⟩
  · rintro ⟨f, rfl⟩
    cases f <;> decide

theorem lookup_values_spelling (r : Reading) (f : DateField) :
    (values r).lookup f.spelling = some (f.text r) := by
  cases f <;> rfl

theorem lookup_values_of_not_mem (r : Reading) {t : Text} (ht : t ∉ valueTokens) :
    (values r).lookup t = none := by
  rw [List.lookup_eq_none_iff]
  intro p hp
  obtain ⟨f, -, rfl⟩ := List.mem_map.1 hp
  exact bne_iff_ne.2 fun h => ht ((mem_valueTokens_iff t).2 ⟨f, h.symm⟩)

/-! ## The split -/

/-- How a pattern is split into parts. -/
inductive Splits : Text → List Text → Prop
  | nil : Splits [] []
  /-- A token is a part if no longer one fits in its place. -/
  | token {t rest : Text} {parts : List Text} (ht : t ∈ valueTokens)
      (longest : ∀ u ∈ valueTokens, u <+: t ++ rest → u.length ≤ t.length) (h : Splits rest parts) :
      Splits (t ++ rest) (t :: parts)
  /-- A quoted text is a part, with its quotes. -/
  | quoted {u rest : Text} {parts : List Text} (hu : '\x27' ∉ u) (h : Splits rest parts) :
      Splits ('\x27' :: (u ++ '\x27' :: rest)) (('\x27' :: (u ++ ['\x27'])) :: parts)
  /-- Any other character is a part, also a quote that is not closed. -/
  | single {c : Char} {rest : Text} {parts : List Text} (ht : ∀ t ∈ valueTokens, ¬ t <+: c :: rest)
      (hq : c = '\x27' → '\x27' ∉ rest) (h : Splits rest parts) : Splits (c :: rest) ([c] :: parts)

/-- The parts make up the pattern. -/
theorem Splits.flatten {pattern : Text} {parts : List Text} (h : Splits pattern parts) :
    parts.flatten = pattern := by
  induction h with
  | nil => rfl
  | token _ _ _ ih => rw [List.flatten_cons, ih]
  | quoted _ _ ih => simp [ih]
  | single _ _ _ ih => rw [List.flatten_cons, ih]; rfl

/-- A split is the one into pieces, and a piece that is no field is no token. -/
theorem Splits.eq_pieces {pattern : Text} {parts : List Text} (h : Splits pattern parts) :
    parts = (pieces pattern).map Piece.spelling
      ∧ ∀ t, .text t ∈ pieces pattern → t ∉ valueTokens := by
  have hquote : ∀ u : Text, '\x27' :: u ∉ valueTokens := by
    intro u hu
    have hfirst : ∀ t ∈ valueTokens, t.head? ≠ some '\x27' := by decide
    exact hfirst _ hu rfl
  induction h with
  | nil => exact ⟨rfl, fun t ht => nomatch ht⟩
  | @token t rest parts ht longest _ ih =>
      obtain ⟨f, rfl⟩ := (mem_valueTokens_iff t).1 ht
      obtain ⟨c, s, hs⟩ := List.exists_cons_of_ne_nil f.spelling_ne_nil
      have hstart : DateField.atStart? (c :: (s ++ rest)) = some f := by
        rw [← List.cons_append, ← hs]
        exact DateField.atStart?_of_longest (List.prefix_append _ _) fun g hg =>
          longest _ ((mem_valueTokens_iff _).2 ⟨g, rfl⟩) hg
      have hpieces : pieces (f.spelling ++ rest) = .field f :: pieces rest := by
        rw [hs, List.cons_append]
        refine pieces_of_pieceAt (by rw [pieceAt, hstart]) ?_
        rw [Piece.spelling, hs, List.cons_append]
      rw [hpieces]
      refine ⟨by rw [ih.1]; rfl, fun u hu => ?_⟩
      rcases List.mem_cons.1 hu with h | h
      · cases h
      · exact ih.2 u h
  | @quoted u rest parts hu _ ih =>
      have hpieces := (Separator.quoted hu).pieces_append rest
      rw [List.cons_append, List.append_assoc, List.singleton_append] at hpieces
      rw [hpieces]
      refine ⟨by rw [ih.1]; rfl, fun t ht => ?_⟩
      rcases List.mem_cons.1 ht with h | h
      · obtain rfl := Piece.text.inj h
        exact hquote _
      · exact ih.2 t h
  | @single c rest parts ht hq _ ih =>
      have hstart : DateField.atStart? (c :: rest) = none :=
        DateField.atStart?_eq_none_iff.2 fun f => ht _ ((mem_valueTokens_iff _).2 ⟨f, rfl⟩)
      have hquoted : quotedAt? (c :: rest) = none := by
        by_cases hc : c = '\x27'
        · rw [hc]
          exact quotedAt?_unclosed (hq hc)
        · exact quotedAt?_of_ne hc rest
      have hpieces : pieces (c :: rest) = .text [c] :: pieces rest :=
        pieces_of_pieceAt (by rw [pieceAt, hstart, hquoted]) rfl
      rw [hpieces]
      refine ⟨by rw [ih.1]; rfl, fun t h => ?_⟩
      rcases List.mem_cons.1 h with h | h
      · obtain rfl := Piece.text.inj h
        exact fun hm => ht _ hm ⟨rest, rfl⟩
      · exact ih.2 t h

/-- Every pattern is split into its pieces. -/
theorem splits_pieces (pattern : Text) : Splits pattern ((pieces pattern).map Piece.spelling) := by
  induction h : pattern.length using Nat.strongRecOn generalizing pattern with
  | ind n ih =>
      cases pattern with
      | nil => exact .nil
      | cons c rest =>
          obtain ⟨u, hu, hpieces⟩ := exists_pieces_cons c rest
          have hlength : u.length < n := by
            have hne := List.length_pos_iff.2 (pieceAt_isPrefix c rest).2
            rw [← h, hu, List.length_append]
            omega
          have hrest := ih u.length hlength u rfl
          rw [hpieces, List.map_cons]
          cases hstart : DateField.atStart? (c :: rest) with
          | some f =>
              have hp : pieceAt c rest = .field f := by rw [pieceAt, hstart]
              rw [hp] at hu ⊢
              rw [Piece.spelling] at hu ⊢
              rw [hu] at hstart ⊢
              refine .token ((mem_valueTokens_iff _).2 ⟨f, rfl⟩) (fun t ht hpre => ?_) hrest
              obtain ⟨g, rfl⟩ := (mem_valueTokens_iff t).1 ht
              exact DateField.length_le_of_atStart? hstart hpre
          | none =>
              by_cases hq : c = '\x27' ∧ '\x27' ∈ rest
              · obtain ⟨rfl, hq⟩ := hq
                obtain ⟨v, w, rfl, hv⟩ := List.eq_append_cons_of_mem hq
                have hp : pieceAt '\x27' (v ++ '\x27' :: w) = .text ('\x27' :: (v ++ ['\x27'])) := by
                  rw [pieceAt, hstart, quotedAt?_closed hv]
                rw [hp] at hu ⊢
                obtain rfl : w = u := by simpa [Piece.spelling] using hu
                exact .quoted hv hrest
              · have hquoted : quotedAt? (c :: rest) = none := by
                  by_cases hc : c = '\x27'
                  · rw [hc]
                    exact quotedAt?_unclosed fun hm => hq ⟨hc, hm⟩
                  · exact quotedAt?_of_ne hc rest
                have hp : pieceAt c rest = .text [c] := by rw [pieceAt, hstart, hquoted]
                rw [hp] at hu ⊢
                obtain rfl : rest = u := by simpa [Piece.spelling] using hu
                refine .single (fun t ht hpre => ?_) (fun hc hm => hq ⟨hc, hm⟩) hrest
                obtain ⟨f, rfl⟩ := (mem_valueTokens_iff t).1 ht
                exact DateField.atStart?_eq_none_iff.1 hstart f hpre

/-- Every pattern has just one split. -/
theorem splits_iff (pattern : Text) (parts : List Text) :
    Splits pattern parts ↔ parts = (pieces pattern).map Piece.spelling :=
  ⟨fun h => h.eq_pieces.1, fun h => h ▸ splits_pieces pattern⟩

/-! ## Substitution -/

/-- A date that can be read puts its values in the place of the tokens. -/
theorem render_some_eq (r : Reading) (pattern : Text) :
    render (some r) pattern
      = ((pieces pattern).map Piece.spelling).flatMap fun part => ((values r).lookup part).getD part := by
  rw [render, List.flatMap_map]
  refine List.flatMap_congr fun piece hpiece => ?_
  cases piece with
  | field f =>
      rw [Piece.spelling, lookup_values_spelling]
      rfl
  | text t =>
      rw [Piece.spelling, lookup_values_of_not_mem r ((splits_pieces pattern).eq_pieces.2 t hpiece)]
      rfl

/-- A date that cannot be read puts a question mark in the place of the tokens. -/
theorem render_none_eq (pattern : Text) :
    render none pattern
      = ((pieces pattern).map Piece.spelling).flatMap fun part =>
          if valueTokens.contains part then "?" else part := by
  rw [render, List.flatMap_map]
  refine List.flatMap_congr fun piece hpiece => ?_
  cases piece with
  | field f =>
      rw [Piece.spelling, if_pos (List.contains_iff_mem.2 ((mem_valueTokens_iff _).2 ⟨f, rfl⟩))]
      rfl
  | text t =>
      have ht := (splits_pieces pattern).eq_pieces.2 t hpiece
      rw [Piece.spelling, if_neg (mt List.contains_iff_mem.1 ht)]
      rfl

/-- A pattern, which may be a name or missing, has just one split into parts, whatever date is shown by
    it. The parts make up the pattern without the mark for universal time. A date that can be read is
    shown by the parts with its value in the place of each token; one that cannot be read for one of the
    known reasons, by the parts with a question mark in the place of each token. Each date is of one of
    these kinds. -/
theorem substitution_at_same_places (mask : Option Text) :
    let clockMode := (mode (resolve mask)).1
    let pattern := (mode (resolve mask)).2
    ∃ parts : List Text, parts.flatten = pattern
      ∧ (∀ others, Splits pattern others ↔ others = parts)
      ∧ ∀ (localZone : LocalZone) (t : Timestamp),
        (∀ r, t.read? clockMode localZone = some r →
            format localZone t mask
              = parts.flatMap fun part => ((values r).lookup part).getD part)
          ∧ (t.Unreadable clockMode localZone →
            format localZone t mask
              = parts.flatMap fun part => if valueTokens.contains part then "?" else part)
          ∧ ((∃ r, t.read? clockMode localZone = some r) ↔ ¬ t.Unreadable clockMode localZone) := by
  intro clockMode pattern
  have hformat : ∀ localZone t, format localZone t mask = render (t.read? clockMode localZone) pattern :=
    fun _ _ => rfl
  refine ⟨(pieces pattern).map Piece.spelling, (splits_pieces pattern).flatten, splits_iff pattern,
    fun localZone t => ⟨fun r hr => ?_, fun hu => ?_, ?_⟩⟩
  · rw [hformat, hr, render_some_eq]
  · rw [hformat, (Timestamp.read?_eq_none_iff clockMode localZone t).2 hu, render_none_eq]
  · rw [← Timestamp.read?_eq_none_iff, ← Option.isSome_iff_exists]
    exact Option.isSome_iff_ne_none

/-- A leap day that is one only in universal time, and a number that is none: both are shown with the
    quoted letter and the one that is no token as they are. -/
theorem substitution_around_quoted_token :
    let mask : Option Text := some "UTC:yyyy'd'ddL"
    let clock : WallClock := ⟨⟨2024, 2, 28, by decide⟩, ⟨23, 59, 59, 0, by decide⟩⟩
    let leap : Timestamp := .zoned clock ⟨some (-1), none⟩
    let undefined : Timestamp := .millisFloat (0.0 / 0.0)
    (∃ r, leap.read? .universal .universal = some r)
      ∧ undefined.Unreadable .universal .universal
      ∧ format .universal leap mask = "2024'd'29L".toList
      ∧ format .universal undefined mask = "?'d'?L".toList := by
  intro mask clock leap undefined
  obtain ⟨parts, -, hsplit, hshown⟩ := substitution_at_same_places mask
  have hparts : parts = [("yyyy" : Text), "'d'", "dd", "L"] := by
    rw [← (hsplit _).1 (splits_pieces _)]
    decide
  obtain ⟨r, hr⟩ : ∃ r, leap.read? .universal .universal = some r :=
    Option.isSome_iff_exists.1 (by decide)
  have hu : undefined.Unreadable .universal .universal := by
    have hm : Double.magnitude (0.0 / 0.0) = .undefined := by decide +kernel
    refine .notFinite ?_
    rintro ⟨m, e, h⟩
    rw [hm] at h
    cases h
  refine ⟨⟨r, hr⟩, hu, ?_, ?_⟩
  · have hvalues : (leap.read? .universal .universal).map (fun r =>
        parts.flatMap fun part => ((values r).lookup part).getD part)
        = some "2024'd'29L".toList := by
      rw [hparts]
      decide
    rw [hr] at hvalues
    exact ((hshown .universal leap).1 r hr).trans (Option.some.inj hvalues)
  · rw [(hshown .universal undefined).2.1 hu, hparts]
    decide

end DatePattern
end EventLog

import EventLog.Proofs.Layout.Chunks
import EventLog.Proofs.Rendering.History

set_option autoImplicit false

/-! # Layouts without directives are shown as they are

A percent sign makes a directive only with a letter behind it. Where none has one, as in `100% of {x}` or
`%%5d`, a layout is cut in front of each percent sign all the same, but all the chunks are literal text
(`isPlain_iff_literal`). Put together again they are the layout, so every event is shown as the layout
without the white space around it, and neither the event nor the provider has a part in this
(`plain_layout_echoed`). -/

namespace EventLog.Layout

/-! ## Literal text only -/

/-- Whether no percent sign of the layout has a letter behind it. -/
def IsPlain (layout : Text) : Prop :=
  ∀ c, ['%', c] <:+: layout → Text.isLetter c = false

theorem segment_of_no_letter {body : Text} (h : startsWithLetter body = false) :
    segment ('%' :: body) = .literal ('%' :: body) := by
  cases body with
  | nil => rfl
  | cons c rest =>
      have hc : Text.isLetter c = false := h
      simp [segment, hc]

theorem segment_ne_literal {body : Text} (h : startsWithLetter body = true) (t : Text) :
    segment ('%' :: body) ≠ .literal t := by
  cases body with
  | nil => cases h
  | cons c rest =>
      have hc : Text.isLetter c = true := h
      intro hs
      simp only [segment, List.takeWhile_cons, hc, if_true, List.isEmpty_cons, Bool.false_eq_true,
        if_false] at hs
      split at hs <;> cases hs

/-- A layout in two parts that meet at a percent sign has the chunk in which the second one starts. -/
theorem mem_chunks_append (before t : Text) :
    '%' :: (chunks t).1 ∈ (chunks (before ++ '%' :: t)).2 := by
  have hd := (isDivision_chunks before).append (List.not_mem_nil) (isDivision_chunks t)
  rw [List.nil_append, isDivision_iff] at hd
  rw [hd]
  simp

/-- A layout is plain just if none of its chunks has a letter behind its percent sign. -/
theorem isPlain_iff_chunks (layout : Text) :
    IsPlain layout
      ↔ ∀ body : Text, '%' :: body ∈ (chunks layout).2 → startsWithLetter body = false := by
  constructor
  · intro h body hm
    cases body with
    | nil => rfl
    | cons c rest =>
        have hchunk : ['%', c] <:+: '%' :: c :: rest := ⟨[], rest, rfl⟩
        have hflatten : (chunks layout).2.flatten <:+: layout :=
          ⟨(chunks layout).1, [], by rw [List.append_nil, chunks_flatten]⟩
        exact h c ((hchunk.trans (List.infix_of_mem_flatten hm)).trans hflatten)
  · rintro h c ⟨before, rest, rfl⟩
    have hm := mem_chunks_append before (c :: rest)
    have hc := h _ (by simpa using hm)
    rw [(isDivision_chunks _).startsWithLetter] at hc
    exact hc

/-- The segments of a plain layout are its parts as they are. -/
theorem compile_of_isPlain {layout : Text} (h : IsPlain layout) :
    compile layout = (if (chunks layout).1.isEmpty then [] else [.literal (chunks layout).1])
      ++ (chunks layout).2.map .literal := by
  have hrest : (chunks layout).2.map segment = (chunks layout).2.map .literal := by
    refine List.map_congr_left fun c hc => ?_
    obtain ⟨body, rfl, -⟩ := (isDivision_chunks layout).chunk c hc
    exact segment_of_no_letter ((isPlain_iff_chunks layout).1 h body hc)
  rw [← hrest, compile]

/-- Plain layouts, and no others, compile to literal text only. -/
theorem isPlain_iff_literal (layout : Text) :
    IsPlain layout ↔ ∀ segment ∈ compile layout, ∃ t, segment = .literal t := by
  constructor
  · intro h segment hm
    rw [compile_of_isPlain h] at hm
    rcases List.mem_append.1 hm with hm | hm
    · split at hm
      · cases hm
      · exact ⟨_, List.mem_singleton.1 hm⟩
    · obtain ⟨c, -, rfl⟩ := List.mem_map.1 hm
      exact ⟨c, rfl⟩
  · intro h
    rw [isPlain_iff_chunks]
    intro body hm
    obtain ⟨t, ht⟩ := h (segment ('%' :: body)) (List.mem_append_right _ (List.mem_map_of_mem hm))
    exact eq_false_of_ne_true fun hl => segment_ne_literal hl t ht

/-! ## What is shown -/

theorem text_of_isPlain (zone : LocalZone) (e : Event) {layout : Text} (h : IsPlain layout) :
    text zone e (compile layout) = layout := by
  have hrest : ∀ rest : List Text, text zone e (rest.map .literal) = rest.flatten := by
    intro rest
    rw [text, List.flatMap_map, List.flatten_eq_flatMap]
    rfl
  have hfirst : text zone e
      (if (chunks layout).1.isEmpty then [] else [.literal (chunks layout).1]) = (chunks layout).1 := by
    cases (chunks layout).1 <;> simp [text, Segment.text]
  rw [compile_of_isPlain h, text_append, hfirst, hrest, chunks_flatten]

/-- Layouts in which no percent sign has a letter behind it:

    1. These are just the layouts that compile to literal text only.
    2. Every event is shown as the layout without the white space around it.
    3. This leaves the event as it was, and does not ask the provider, whatever this would answer. -/
theorem plain_layout_echoed (layout : Text) :
    (IsPlain layout ↔ ∀ segment ∈ compile layout, ∃ t, segment = .literal t)
      ∧ (IsPlain layout → ∀ s : Scene, s.env.cache.Sound → ∃ s',
        format layout s = .ok (Text.strip layout) s'
          ∧ s'.event = s.event ∧ s'.env.provider = s.env.provider)
      ∧ ∃ left right, layout = left ++ Text.strip layout ++ right
        ∧ (∀ c ∈ left, Text.isBlank c = true) ∧ (∀ c ∈ right, Text.isBlank c = true)
        ∧ ∀ c, c ∈ (Text.strip layout).head? ∨ c ∈ (Text.strip layout).getLast? →
          Text.isBlank c = false := by
  refine ⟨isPlain_iff_literal layout, fun h s hc => ⟨s.fetched layout, ?_, rfl, ?_⟩, ?_⟩
  · have hn : ∀ segment ∈ compile layout, segment.needsLocation (s.fetched layout).event = false := by
      intro segment hm
      obtain ⟨t, rfl⟩ := (isPlain_iff_literal layout).1 h segment hm
      rfl
    rw [format_eq layout s hc, ← Scene.fetched, renderAll_of_no_empty_field _ _ hn, text_of_isPlain _ _ h]
  · rw [Scene.fetched, s.env.fetch_snd_eq]
  · obtain ⟨left, right, hl, hleft, hright⟩ := Text.exists_eq_append_strip layout
    exact ⟨left, right, hl, hleft, hright, fun c => Text.isBlank_ends_strip layout⟩

/-- With percent signs at both ends, in a row, in front of a digit and in front of a brace, and with a
    provider that would fail. -/
theorem plain_layout_echoed_percents :
    let layout : Text := "\t%%5d %\x7bd\x7d 100%\n"
    let s : Scene :=
      ⟨(Environment.initial .universal).install (.custom fun _ _ => .raised (.simple "KeyError" "frame")),
        Event.placed none none⟩
    (IsPlain layout ∧ s.env.cache.Sound)
      ∧ ∃ s', format layout s = .ok "%%5d %\x7bd\x7d 100%" s'
        ∧ s'.event = s.event ∧ s'.env.provider = s.env.provider := by
  intro layout s
  obtain ⟨hiff, hecho, -⟩ := plain_layout_echoed layout
  have hliteral : compile layout
      = [.literal "\t", .literal "%", .literal "%5d ", .literal "%\x7bd\x7d 100", .literal "%\n"] := by
    decide
  have hplain : IsPlain layout := by
    rw [hiff, hliteral]
    simp
  exact ⟨⟨hplain, Cache.sound_nil⟩, hecho hplain s Cache.sound_nil⟩

end EventLog.Layout

import EventLog.Proofs.Layout.TrailingText
import EventLog.Proofs.Rendering.KeptLayouts

set_option autoImplicit false

/-! # Aliases can be exchanged

In a layout each alias can be written for any other one of the same directive, as long as no letter
follows it, and at as many places as one likes (`Respelled`). All such layouts compile to the same
segments, whatever else is in them, and so they show every event alike and do the same to it. An alias of
another directive always makes a difference (`aliases_interchangeable`).

What follows an alias may again hold aliases that are exchanged, in the same chunk or in a later one. So
two respelled layouts are compared by the text in front of their first percent sign and by the segments
that follow (`Respelled.chunks`). -/

namespace EventLog

namespace Layout

/-! ## One alias -/

/-- A chunk that starts with an alias is a segment of its directive. -/
theorem segment_alias {d : Directive} {a : Text} (h : a ∈ d.aliases) {rest : Text}
    (hr : startsWithLetter rest = false) :
    segment ('%' :: (a ++ rest)) = .directive (some d) (params rest) (tailText rest) := by
  have hm := Directive.mem_aliasTable h
  obtain ⟨hne, hletters⟩ := Directive.isLetter_of_mem_aliasTable _ hm
  exact segment_of_resolve a rest d [] hne hletters hr (Directive.resolve_alias _ hm)

/-- The chunk of an alias ends in front of the next percent sign. -/
theorem chunks_alias (before : Text) {d : Directive} {a : Text} (h : a ∈ d.aliases) (t : Text) :
    chunks (before ++ '%' :: (a ++ t))
      = ((chunks before).1,
        (chunks before).2 ++ ('%' :: (a ++ (chunks t).1)) :: (chunks t).2) :=
  have hletters := (Directive.isLetter_of_mem_aliasTable _ (Directive.mem_aliasTable h)).2
  isDivision_iff.1
    ((isDivision_chunks before).append (percent_not_mem_of_letters hletters) (isDivision_chunks t))

theorem compile_alias (before : Text) {d : Directive} {a : Text} (h : a ∈ d.aliases) {t : Text}
    (ht : startsWithLetter t = false) :
    compile (before ++ '%' :: (a ++ t))
      = compile before ++ .directive (some d) (params (chunks t).1) (tailText (chunks t).1)
          :: (chunks t).2.map segment := by
  have hs := segment_alias h (((isDivision_chunks t).startsWithLetter).trans ht)
  rw [compile, compile, chunks_alias before h]
  simp [hs]

/-! ## Other spellings of a layout -/

/-- The second layout is the first one with other aliases of the same directives at some places. No letter
    follows the alias at such a place. -/
inductive Respelled : Text → Text → Prop where
  | same (t : Text) : Respelled t t
  | exchange (before : Text) {d : Directive} {a b t u : Text} (ha : a ∈ d.aliases) (hb : b ∈ d.aliases)
      (ht : startsWithLetter t = false) (h : Respelled t u) :
      Respelled (before ++ '%' :: (a ++ t)) (before ++ '%' :: (b ++ u))

/-- Respelled layouts have the same text in front of the first percent sign, and the same segments from
    there on. -/
theorem Respelled.chunks {t u : Text} (h : Respelled t u) :
    (chunks t).1 = (chunks u).1 ∧ (chunks t).2.map segment = (chunks u).2.map segment := by
  induction h with
  | same t => exact ⟨rfl, rfl⟩
  | @exchange before d a b t u ha hb ht _ ih =>
      obtain ⟨hfirst, hrest⟩ := ih
      have hl : startsWithLetter (Layout.chunks u).1 = false := by
        rw [← hfirst, (isDivision_chunks t).startsWithLetter, ht]
      rw [chunks_alias before ha, chunks_alias before hb, hfirst]
      refine ⟨rfl, ?_⟩
      simp only [List.map_append, List.map_cons, segment_alias ha hl, segment_alias hb hl, hrest]

theorem Respelled.compile_eq {t u : Text} (h : Respelled t u) : compile t = compile u := by
  simp only [compile, h.chunks]

end Layout

/-! ## What is shown -/

/-- What formatting gives and does depends on the layout by its segments only. -/
theorem Environment.formatted_of_compile_eq {env : Environment} (hc : env.cache.Sound) {t u : Text}
    (h : Layout.compile t = Layout.compile u) (e : Event) :
    env.formatted t e = env.formatted u e
      ∧ (env.after (.format t e)).provider = (env.after (.format u e)).provider := by
  simp only [formatted, after, Layout.format_eq_inEnvironment, env.fetch_fst_of_sound hc, h]
  generalize (Layout.rendition env.zone env.provider e (Layout.compile u)).stripped = r
  obtain ⟨result, provider, e', notices⟩ := r
  cases result <;> exact ⟨rfl, rfl⟩

namespace Layout

/-- Aliases in layouts:

    1. An alias in front of a text that does not start with a letter can be exchanged for another one, in
       every layout, just if both are aliases of the same directive.
    2. Layouts that differ by such exchanges at any number of places compile to the same segments.
    3. They show the same of every event or end with the same fault, and leave the event and the provider
       the same. -/
theorem aliases_interchangeable :
    (∀ (d d' : Directive) (a b before after : Text), a ∈ d.aliases → b ∈ d'.aliases →
        startsWithLetter after = false →
        (compile (before ++ '%' :: (a ++ after)) = compile (before ++ '%' :: (b ++ after)) ↔ d = d'))
      ∧ ∀ t u, Respelled t u → compile t = compile u
        ∧ ∀ env : Environment, env.cache.Sound → ∀ e, env.formatted t e = env.formatted u e
          ∧ (env.after (.format t e)).provider = (env.after (.format u e)).provider := by
  refine ⟨fun d d' a b before after ha hb hafter => ⟨fun h => ?_, ?_⟩, fun t u h => ?_⟩
  · rw [compile_alias before ha hafter, compile_alias before hb hafter] at h
    obtain ⟨hsegment, -⟩ := List.cons.inj (List.append_cancel_left h)
    obtain ⟨hkind, -, -⟩ := Segment.directive.inj hsegment
    exact Option.some.inj hkind
  · rintro rfl
    exact (Respelled.exchange before ha hb hafter (.same after)).compile_eq
  · exact ⟨h.compile_eq, fun env hc e => env.formatted_of_compile_eq hc h.compile_eq e⟩

/-- Three aliases are exchanged, the first in front of a parameter and the others in front of a percent
    sign; a message has other aliases than a method. -/
theorem aliases_interchangeable_at_three_places :
    let t : Text := "[%d\x7bDATE\x7d %sn%m%"
    let u : Text := "[%date\x7bDATE\x7d %sequenceNumber%message%"
    let env := Environment.initial .universal
    (Respelled t u ∧ env.cache.Sound)
      ∧ (compile t = compile u ∧ ∀ e, env.formatted t e = env.formatted u e)
      ∧ compile ("[" ++ '%' :: ("m" ++ "]")) ≠ compile ("[" ++ '%' :: ("method" ++ "]")) := by
  intro t u env
  obtain ⟨hsame, hall⟩ := aliases_interchangeable
  have hmessage : "m".toList ∈ Directive.message.aliases ∧ "message".toList ∈ Directive.message.aliases := by
    decide
  have hsequence : "sn".toList ∈ Directive.sequence.aliases
      ∧ "sequenceNumber".toList ∈ Directive.sequence.aliases := by
    decide
  have hdate : "d".toList ∈ Directive.date.aliases ∧ "date".toList ∈ Directive.date.aliases := by
    decide
  have htu : Respelled t u :=
    .exchange "[" hdate.1 hdate.2 (by decide)
      (.exchange "\x7bDATE\x7d " hsequence.1 hsequence.2 (by decide)
        (.exchange "" hmessage.1 hmessage.2 (by decide) (.same "%")))
  obtain ⟨hcompile, hformat⟩ := hall t u htu
  refine ⟨⟨htu, Cache.sound_nil⟩, ⟨hcompile, fun e => (hformat env Cache.sound_nil e).1⟩, fun h => ?_⟩
  have hd := (hsame .message .method "m" "method" "[" "]" hmessage.1 (by decide) (by decide)).1 h
  cases hd

end Layout
end EventLog

import EventLog.Proofs.Rendering.History
import EventLog.Proofs.Rendering.Rendition

set_option autoImplicit false

/-! # When formatting fails

A provider may raise an exception that does not just say "not known": its class is none of those that do
and derives from none of them. Formatting ends with it exactly if the provider is asked at all, which is
the case if the layout shows the file or the line and this field of the event is empty. Nothing else that
an event holds can make formatting fail, and a lookup that succeeded once leaves no field empty for which
the provider would be asked again. The main statement is `format_fails_iff`. -/

namespace EventLog

namespace Lookup

/-- Whether the answer is a place with numbers for line and column as far as they are known, or none, or
    any failure. -/
def IsTyped : Lookup → Prop
  | found l => l.line.isPosition = true ∧ l.column.isPosition = true
  | unknown => True
  | raised _ => True

theorem IsTyped.isRegular_or_raised {answer : Lookup} (h : answer.IsTyped) :
    answer.IsRegular ∨ ∃ x, answer = .raised x ∧ x.isTolerated = false := by
  cases answer with
  | found l => exact .inl h
  | unknown => exact .inl trivial
  | raised x =>
      cases hx : x.isTolerated with
      | true => exact .inl hx
      | false => exact .inr ⟨x, rfl, hx⟩

end Lookup

namespace Layout

/-- Whether a segment of the layout is the directive. -/
def Shows (layout : Text) (d : Directive) : Prop :=
  ∃ params after, Segment.directive (some d) params after ∈ compile layout

/-- A layout shows an empty field of the event if it shows the file or the line and that one is empty. -/
theorem any_needsLocation_iff (layout : Text) (e : Event) :
    (compile layout).any (·.needsLocation e) = true
      ↔ Shows layout .file ∧ Text.isPresent e.file = false
        ∨ Shows layout .line ∧ Text.isPresent e.line = false := by
  have hempty : ∀ b : Bool, (!b) = true → b = false := by decide
  rw [List.any_eq_true]
  constructor
  · rintro ⟨segment, m, hn⟩
    cases segment with
    | directive kind params after =>
        cases kind with
        | none => cases hn
        | some d =>
            cases d with
            | file => exact .inl ⟨⟨params, after, m⟩, hempty _ hn⟩
            | line => exact .inr ⟨⟨params, after, m⟩, hempty _ hn⟩
            | _ => cases hn
    | _ => cases hn
  · rintro (⟨⟨params, after, m⟩, hf⟩ | ⟨⟨params, after, m⟩, hl⟩)
    · exact ⟨_, m, by simp [Segment.needsLocation, Directive.needsLocation, hf]⟩
    · exact ⟨_, m, by simp [Segment.needsLocation, Directive.needsLocation, hl]⟩

/-- The first segment that needs the place ends the rendering if the provider fails, and what was
    rendered before it has changed nothing. -/
theorem rendition_of_raised (zone : LocalZone) (provider : Provider) (e : Event) (x : Exception)
    (ha : (provider.locate e).1 = .raised x) (hx : x.isTolerated = false) (segments : List Segment)
    (hn : segments.any (·.needsLocation e) = true) :
    rendition zone provider e segments = ⟨.error (.raised x), (provider.locate e).2, e, []⟩ := by
  induction segments with
  | nil => cases hn
  | cons segment rest ih =>
      rw [rendition]
      cases hs : segment.needsLocation e with
      | true =>
          have hr : segment.rendition zone provider e
              = ⟨.error (.raised x), (provider.locate e).2, e, []⟩ := by
            rw [Segment.rendition, hs, if_pos rfl, ha]
            simp [hx]
          rw [hr, Rendition.andThen_error]
      | false =>
          rw [List.any_cons, hs, Bool.false_or] at hn
          rw [segment.rendition_of_no_empty_field zone provider e hs, Rendition.andThen_ok, ih hn]
          rfl

/-- If the provider does not fail, or is not asked, formatting gives a text. -/
theorem exists_format_ok (layout : Text) (s : Scene) (hc : s.env.cache.Sound)
    (h : s.answer.IsRegular ∨ (compile layout).any (·.needsLocation s.event) = false) :
    ∃ t s', format layout s = .ok t s' := by
  rw [format_eq layout s hc, ← Scene.fetched]
  rcases h with hr | hn
  · rw [renderAll_eq _ _ (by rw [s.answer_fetched]; exact hr)]
    exact ⟨_, _, rfl⟩
  · have hs : ∀ segment ∈ compile layout, segment.needsLocation (s.fetched layout).event = false :=
      fun segment m => eq_false_of_ne_true (List.any_eq_false.1 hn segment m)
    rw [renderAll_of_no_empty_field _ _ hs]
    exact ⟨_, _, rfl⟩

/-- If the provider fails and is asked, formatting ends with what it raised, having changed nothing but
    the kept layouts, the notices and how often the provider was asked. -/
theorem format_of_raised (layout : Text) (s : Scene) (hc : s.env.cache.Sound) (x : Exception)
    (ha : s.answer = .raised x) (hx : x.isTolerated = false)
    (hn : (compile layout).any (·.needsLocation s.event) = true) :
    ∃ s', format layout s = .error (.raised x) s' ∧ s'.event = s.event
      ∧ s'.env.cache = (s.env.fetch layout).2.cache := by
  obtain ⟨env, e⟩ := s
  have hr := rendition_of_raised env.zone env.provider e x ha hx _ hn
  rw [← env.fetch_fst_of_sound hc layout] at hr
  rw [format_eq_inEnvironment, hr]
  exact ⟨_, rfl, rfl, rfl⟩

/-- Formatting with a provider whose answers are of the right form:

    1. It ends with a fault if and only if the layout shows the file or the line of an event where this is
       empty, and the provider raises an exception that does not just say "not known", which means that its
       class is of none of the tolerated kinds and derives from none that is.
    2. The fault is this very exception. The event is as it was before, and the layout is kept.
    3. In all other cases it gives a text. -/
theorem format_fails_iff (layout : Text) (s : Scene) (hc : s.env.cache.Sound)
    (ht : s.answer.IsTyped) :
    let asks := Shows layout .file ∧ Text.isPresent s.event.file = false
      ∨ Shows layout .line ∧ Text.isPresent s.event.line = false
    let fails := ∃ x, s.answer = .raised x ∧ x.isTolerated = false
    ((∃ f s', format layout s = .error f s') ↔ asks ∧ fails)
      ∧ (∀ f s', format layout s = .error f s' →
          (∃ x, s.answer = .raised x ∧ f = .raised x) ∧ s'.event = s.event
            ∧ s'.env.cache.get? layout = some (compile layout))
      ∧ (¬ (asks ∧ fails) → ∃ t s', format layout s = .ok t s') := by
  intro asks fails
  have hasks : (compile layout).any (·.needsLocation s.event) = true ↔ asks :=
    any_needsLocation_iff layout s.event
  have hok : ¬ (asks ∧ fails) → ∃ t s', format layout s = .ok t s' := by
    intro h
    refine exists_format_ok layout s hc ?_
    rcases ht.isRegular_or_raised with hr | hf
    · exact .inl hr
    · exact .inr (eq_false_of_ne_true fun hn => h ⟨hasks.1 hn, hf⟩)
  have hkept : (s.env.fetch layout).2.cache.get? layout = some (compile layout) := by
    rw [(s.env.fetch_cache layout).1, Cache.get?_fetch, hc.fetch_fst]
  refine ⟨⟨?_, ?_⟩, ?_, hok⟩
  · rintro ⟨f, s', hf⟩
    refine Classical.byContradiction fun h => ?_
    obtain ⟨t, s'', ht⟩ := hok h
    rw [hf] at ht
    cases ht
  · rintro ⟨ha, x, hx, hnt⟩
    obtain ⟨s', hf, -⟩ := format_of_raised layout s hc x hx hnt (hasks.2 ha)
    exact ⟨_, s', hf⟩
  · intro f s' hf
    by_cases h : asks ∧ fails
    · obtain ⟨ha, x, hx, hnt⟩ := h
      obtain ⟨s'', hf', he, hcache⟩ := format_of_raised layout s hc x hx hnt (hasks.2 ha)
      rw [hf] at hf'
      cases hf'
      exact ⟨⟨x, hx, rfl⟩, he, by rw [hcache, hkept]⟩
    · obtain ⟨t, s'', ht⟩ := hok h
      rw [hf] at ht
      cases ht

/-- A provider that does not find a key ends the formatting of an event without a file, and the layout is
    kept all the same. A failure of a class that derives from that of wrong values does not, whatever other
    bases the class has. -/
theorem format_fails_on_missing_key :
    let x := Exception.simple "KeyError" "frame"
    let y := Exception.ofMessage (.derived "Miss" [.builtin "KeyError", .builtin "ValueError"]) none
    let scene (x : Exception) : Scene :=
      ⟨(Environment.initial .universal).install (.custom fun _ _ => .raised x),
        Event.placed none (some "7")⟩
    (∃ f s', format "%m %F:%L" (scene x) = .error f s')
      ∧ (∀ f s', format "%m %F:%L" (scene x) = .error f s' →
          s'.event = (scene x).event ∧ s'.env.cache.has "%m %F:%L" = true)
      ∧ ∃ t s', format "%m %F:%L" (scene y) = .ok t s' := by
  intro x y scene
  obtain ⟨hiff, hfault, -⟩ := format_fails_iff "%m %F:%L" (scene x) Cache.sound_nil trivial
  obtain ⟨-, -, hok⟩ := format_fails_iff "%m %F:%L" (scene y) Cache.sound_nil trivial
  have hshows : Shows "%m %F:%L" .file := ⟨[], ":", by decide⟩
  refine ⟨hiff.2 ⟨.inl ⟨hshows, rfl⟩, x, rfl, by decide⟩, fun f s' hf => ?_, hok ?_⟩
  · obtain ⟨-, he, hk⟩ := hfault f s' hf
    exact ⟨he, by rw [Table.has, hk]; rfl⟩
  · rintro ⟨-, x', hx', hnt⟩
    obtain rfl : y = x' := Lookup.raised.inj hx'
    have ht : y.isTolerated = true :=
      (ExceptionClass.isTolerated_derived_iff _ _).2 ⟨.builtin "ValueError", by simp, by decide⟩
    rw [ht] at hnt
    cases hnt

end Layout
end EventLog

import EventLog.Proofs.Rendering.History

set_option autoImplicit false

/-! # What is known of the place of an event

An answer of the provider writes all location fields, also those that were known before. So formatting
an event of which only the file or only the line is known keeps that field only if the provider says the
same, or is not asked (`known_location_kept_iff`). Otherwise what a layout shows depends on what was
shown before it. -/

namespace EventLog

theorem Text.eq_some_of_isPresent {o : Option Text} (h : Text.isPresent o = true) :
    o = some (o.getD []) := by
  cases o with
  | none => cases h
  | some t => rfl

namespace Event

/-- Whether an event is another one with no more than empty location fields filled in. -/
structure FilledIn (e e' : Event) : Prop where
  file : Text.isPresent e.file = true → e'.file = e.file
  line : Text.isPresent e.line = true → e'.line = e.line
  column : Text.isPresent e.column = true → e'.column = e.column
  other : e' = { e with file := e'.file, line := e'.line, column := e'.column }

theorem filledIn_self (e : Event) : e.FilledIn e :=
  ⟨fun _ => rfl, fun _ => rfl, fun _ => rfl, rfl⟩

end Event

namespace Scene

/-- Whether some layout shows a location field of the event that is empty. -/
def showsEmptyField (s : Scene) (layouts : List Text) : Bool :=
  layouts.any fun layout => (Layout.compile layout).any (·.needsLocation s.event)

/-- Whether all that is ever shown of the event, in whatever order, is one event. -/
def ShowsOneEvent (s : Scene) : Prop :=
  ∃ e, ∀ layouts : List Text, s.texts (layouts.map .format)
    = layouts.map fun layout => .ok (Text.strip (Layout.text s.env.zone e (Layout.compile layout)))

/-! ## Layouts that show no empty field -/

theorem after_format_of_no_empty_field (s : Scene) (h : s.env.IsRegular) (layout : Text)
    (hn : (Layout.compile layout).any (·.needsLocation s.event) = false) :
    (s.after (.format layout)).event = s.event
      ∧ (s.after (.format layout)).answer = s.answer
      ∧ s.shown? (.format layout)
          = some (.ok (Text.strip (Layout.text s.env.zone s.event (Layout.compile layout)))) := by
  have he : (s.after (.format layout)).event = s.event := by
    rw [s.event_after_format h, hn, if_neg Bool.false_ne_true]
  obtain ⟨cache, notices, -, henv⟩ := s.env_after_format h layout
  rw [hn] at henv
  refine ⟨he, ?_, ?_⟩
  · rw [answer, he, henv]
    rfl
  · have hr : Layout.renderAll (Layout.compile layout) (s.fetched layout)
        = .ok (Layout.text s.env.zone s.event (Layout.compile layout)) (s.fetched layout) := by
      rw [Layout.renderAll_of_no_empty_field, zone_fetched]
      · rfl
      · intro segment m
        exact eq_false_of_ne_true (List.any_eq_false.1 hn segment m)
    rw [shown?, Layout.format_eq layout s h.sound, ← fetched, hr]

/-! ## Layouts that show an empty field -/

theorem after_format_of_empty_field (s : Scene) (h : s.env.IsRegular) (layout : Text)
    (hn : (Layout.compile layout).any (·.needsLocation s.event) = true) :
    (s.after (.format layout)).event = s.event.setLocation s.answer.location
      ∧ (s.after (.format layout)).event.isKnown = true := by
  have he : (s.after (.format layout)).event = s.event.setLocation s.answer.location := by
    rw [s.event_after_format h, hn, if_pos rfl]
  refine ⟨he, ?_⟩
  rw [he]
  exact s.event.isKnown_setLocation _ (h.source _ _).line

/-! ## Sequences of layouts -/

theorem isRegular_of_mem_formats (layouts : List Text) :
    ∀ a ∈ layouts.map Action.format, a.IsRegular := by
  intro a m
  obtain ⟨layout, -, rfl⟩ := List.mem_map.1 m
  trivial

theorem texts_of_isKnown (s : Scene) (h : s.env.IsRegular) (hk : s.event.isKnown = true)
    (layouts : List Text) :
    s.texts (layouts.map .format)
      = layouts.map fun layout =>
          .ok (Text.strip (Layout.text s.env.zone s.event (Layout.compile layout))) := by
  obtain ⟨-, -, ht⟩ := s.run_of_isKnown h hk _ (isRegular_of_mem_formats layouts)
  rw [ht, List.filterMap_map, List.map_filterMap]
  exact congrFun List.filterMap_eq_map layouts

/-- The first layout that shows an empty field fills in all of them, and the others change nothing. -/
theorem event_run_formats (s : Scene) (h : s.env.IsRegular) (layouts : List Text) :
    (s.run (layouts.map .format)).event
      = if s.showsEmptyField layouts then s.event.setLocation s.answer.location else s.event := by
  induction layouts generalizing s with
  | nil => rfl
  | cons layout rest ih =>
      have hr := (s.isRegular_after h (.format layout) trivial).1
      cases hn : (Layout.compile layout).any (·.needsLocation s.event) with
      | true =>
          obtain ⟨he, hk⟩ := s.after_format_of_empty_field h layout hn
          obtain ⟨-, hevent, -⟩ := run_of_isKnown _ hr hk _ (isRegular_of_mem_formats rest)
          rw [showsEmptyField, List.any_cons, hn, Bool.true_or, if_pos rfl, List.map_cons, run,
            hevent, he]
      | false =>
          obtain ⟨he, ha, -⟩ := s.after_format_of_no_empty_field h layout hn
          rw [List.map_cons, run, ih _ hr, showsEmptyField, showsEmptyField, List.any_cons, hn,
            Bool.false_or, he, ha]

/-- If the answer agrees with what is known, all layouts show the event with the answer filled in. -/
theorem texts_of_agrees (s : Scene) (h : s.env.IsRegular)
    (ha : s.event.Agrees s.answer.location) (layouts : List Text) :
    s.texts (layouts.map .format)
      = layouts.map fun layout => .ok (Text.strip (Layout.text s.env.zone
          (s.event.setLocation s.answer.location) (Layout.compile layout))) := by
  induction layouts generalizing s with
  | nil => rfl
  | cons layout rest ih =>
      obtain ⟨hr, hz⟩ := s.isRegular_after h (.format layout) trivial
      rw [List.map_cons, texts, List.map_cons]
      cases hn : (Layout.compile layout).any (·.needsLocation s.event) with
      | true =>
          obtain ⟨he, hk⟩ := s.after_format_of_empty_field h layout hn
          rw [texts_of_isKnown _ hr hk, s.shown?_of_isSettled h (.inr ha), he, hz]
          rfl
      | false =>
          obtain ⟨he, hanswer, hshown⟩ := s.after_format_of_no_empty_field h layout hn
          have ht : Layout.text s.env.zone (s.event.setLocation s.answer.location)
                (Layout.compile layout)
              = Layout.text s.env.zone s.event (Layout.compile layout) :=
            Layout.text_setLocation _ _ _ ha _ fun segment m =>
              eq_false_of_ne_true (List.any_eq_false.1 hn segment m)
          rw [ih _ hr (by rw [he, hanswer]; exact ha), hshown, he, hanswer, hz, ht]
          rfl

theorem showsOneEvent_of_isSettled (s : Scene) (h : s.env.IsRegular) (hs : s.IsSettled) :
    s.ShowsOneEvent := by
  rcases hs with hk | ha
  · exact ⟨_, s.texts_of_isKnown h hk⟩
  · exact ⟨_, s.texts_of_agrees h ha⟩

/-! ## A field that is known while the other one is not -/

theorem strip_between_bars (t : Text) :
    Text.strip ('|' :: (t ++ ['|'])) = '|' :: (t ++ ['|']) := by
  have hb : Text.isBlank '|' = false := by decide
  simp [Text.strip, Text.dropEndWhile, List.dropWhile, hb]

/-- If one event is shown, a layout shows the same after another layout as alone. -/
theorem ShowsOneEvent.shown_after {s : Scene} (hs : s.ShowsOneEvent) (h : s.env.IsRegular)
    (layout other : Text)
    (hn : (Layout.compile layout).any (·.needsLocation s.event) = false)
    (hask : (Layout.compile other).any (·.needsLocation s.event) = true) :
    Text.strip (Layout.text s.env.zone s.event (Layout.compile layout))
      = Text.strip (Layout.text s.env.zone (s.event.setLocation s.answer.location)
          (Layout.compile layout)) := by
  obtain ⟨e, he⟩ := hs
  obtain ⟨-, -, halone⟩ := s.after_format_of_no_empty_field h layout hn
  obtain ⟨hr, hz⟩ := s.isRegular_after h (.format other) trivial
  obtain ⟨hevent, hk⟩ := s.after_format_of_empty_field h other hask
  have hfirst := he [layout]
  have hsecond := he [other, layout]
  have hlater := texts_of_isKnown _ hr hk [layout]
  rw [hevent, hz] at hlater
  simp only [List.map_cons, List.map_nil, texts, halone, Option.toList_some, List.singleton_append,
    List.cons.injEq, Except.ok.injEq, and_true] at hfirst
  obtain ⟨t, ht⟩ : ∃ t, s.shown? (.format other) = some t := by
    obtain ⟨t, ht⟩ := s.exists_format_eq h other
    rw [shown?, ht]
    exact ⟨_, rfl⟩
  simp only [List.map_cons, List.map_nil] at hlater hsecond
  rw [texts, hlater, ht] at hsecond
  simp only [Option.toList_some, List.singleton_append, List.cons.injEq, Except.ok.injEq,
    and_true] at hsecond
  rw [hfirst, hsecond.2]

/-- So a directive whose field is known shows it as the answer has it. -/
theorem ShowsOneEvent.directive_text {s : Scene} (hs : s.ShowsOneEvent) (h : s.env.IsRegular)
    (d : Directive) (layout other : Text)
    (hlayout : Layout.compile layout = [.literal "|", .directive (some d) [] "|"])
    (hn : d.needsLocation s.event = false)
    (hask : (Layout.compile other).any (·.needsLocation s.event) = true) :
    (d.text s.env.zone s.event []).getD []
      = (d.text s.env.zone (s.event.setLocation s.answer.location) []).getD [] := by
  have htext : ∀ e, Layout.text s.env.zone e (Layout.compile layout)
      = '|' :: ((d.text s.env.zone e []).getD [] ++ ['|']) := by
    intro e
    rw [hlayout]
    simp [Layout.text, Segment.text]
  have hshown := hs.shown_after h layout other (by simp [hlayout, Segment.needsLocation, hn]) hask
  rw [htext, htext, strip_between_bars, strip_between_bars] at hshown
  simpa using hshown

theorem agrees_of_showsOneEvent (s : Scene) (h : s.env.IsRegular) (hs : s.ShowsOneEvent)
    (hk : s.event.isKnown = false) : s.event.Agrees s.answer.location := by
  rw [Event.isKnown, Bool.and_eq_false_iff] at hk
  rcases hk with hf | hl
  · refine ⟨fun hfile => ?_, fun hl => ?_⟩
    · rw [hf] at hfile
      cases hfile
    · have hask : (Layout.compile "%F").any (·.needsLocation s.event) = true := by
        show (Segment.needsLocation s.event (.directive (some .file) [] []) || false) = true
        simp [Segment.needsLocation, Directive.needsLocation, hf]
      have hn : Directive.needsLocation s.event .line = false := by
        simp [Directive.needsLocation, hl]
      have ht := hs.directive_text h .line "|%L|" "%F" rfl hn hask
      rw [Text.eq_some_of_isPresent hl]
      exact congrArg some ht
  · refine ⟨fun hf => ?_, fun hline => ?_⟩
    · have hask : (Layout.compile "%L").any (·.needsLocation s.event) = true := by
        show (Segment.needsLocation s.event (.directive (some .line) [] []) || false) = true
        simp [Segment.needsLocation, Directive.needsLocation, hl]
      have hn : Directive.needsLocation s.event .file = false := by
        simp [Directive.needsLocation, hf]
      have ht := hs.directive_text h .file "|%F|" "%L" rfl hn hask
      rw [Text.eq_some_of_isPresent hf]
      exact congrArg some ht
    · rw [hl] at hline
      cases hline

/-! ## When known fields are kept -/

/-- Formatting with a regular provider, in whatever order:

    1. A sequence of layouts keeps all location fields that are known if and only if none of the layouts
       shows an empty field, or the answer of the provider has the known fields as they are.
    2. Everything that is shown is one and the same event, so that neither the order of directives nor
       formatting again makes a difference, if and only if file and line are known, or the answer has
       the known one of them as it is. -/
theorem known_location_kept_iff (s : Scene) (h : s.env.IsRegular) :
    (∀ layouts : List Text, s.event.FilledIn (s.run (layouts.map .format)).event
      ↔ (∀ layout ∈ layouts, ∀ segment ∈ Layout.compile layout,
            segment.needsLocation s.event = false)
        ∨ s.event.FilledIn (s.event.setLocation s.answer.location))
      ∧ (s.ShowsOneEvent ↔ s.IsSettled) := by
  refine ⟨fun layouts => ?_, fun hs => ?_, s.showsOneEvent_of_isSettled h⟩
  · rw [s.event_run_formats h, showsEmptyField]
    cases hany : layouts.any fun layout =>
        (Layout.compile layout).any (·.needsLocation s.event) with
    | true =>
        rw [if_pos rfl]
        refine ⟨.inr, fun hor => hor.resolve_left fun hnone => ?_⟩
        obtain ⟨layout, m, hlayout⟩ := List.any_eq_true.1 hany
        obtain ⟨segment, m', hneeds⟩ := List.any_eq_true.1 hlayout
        rw [hnone layout m segment m'] at hneeds
        cases hneeds
    | false =>
        rw [if_neg Bool.false_ne_true]
        refine ⟨fun _ => .inl fun layout m segment m' => ?_, fun _ => s.event.filledIn_self⟩
        have hlayout := eq_false_of_ne_true (List.any_eq_false.1 hany layout m)
        exact eq_false_of_ne_true (List.any_eq_false.1 hlayout segment m')
  · cases hk : s.event.isKnown with
    | true => exact .inl hk
    | false => exact .inr (s.agrees_of_showsOneEvent h hs hk)

/-- A file that is known is kept, and shown in whatever order, by a provider that finds the same one. -/
theorem known_location_kept_when_found_again :
    let source : LocationSource := .custom fun _ _ => .found ⟨some "app", .null, .null⟩
    let s : Scene :=
      ⟨(Environment.initial .universal).install source, Event.placed (some "app") none⟩
    (∀ layouts : List Text, s.event.FilledIn (s.run (layouts.map .format)).event)
      ∧ s.ShowsOneEvent := by
  intro source s
  have hregular : s.env.IsRegular := ⟨Cache.sound_nil, fun _ _ => ⟨rfl, rfl⟩⟩
  obtain ⟨hkept, hshown⟩ := known_location_kept_iff s hregular
  have hfilled : s.event.FilledIn (s.event.setLocation s.answer.location) :=
    ⟨fun _ => rfl, fun h => (by cases h), fun h => (by cases h), rfl⟩
  have hagrees : s.event.Agrees s.answer.location := ⟨fun _ => rfl, fun h => (by cases h)⟩
  exact ⟨fun layouts => (hkept layouts).2 (.inr hfilled), hshown.2 (.inr hagrees)⟩

/-- With the silent provider a known file is lost as soon as the line is shown: it is shown before the
    line, but no more after it. -/
theorem known_file_lost_when_line_unknown :
    let s : Scene := ⟨.initial .universal, Event.placed (some "app") none⟩
    s.env.IsRegular ∧ Text.isPresent s.event.file = true
      ∧ (s.run [.format "%F:%L"]).event.file = some SourceLocation.unknownFile
      ∧ s.texts [.format "%F:%L", .format "%F:%L"] = [.ok "app:?", .ok "anonymous:?"]
      ∧ s.texts [.format "%L:%F"] = [.ok "?:anonymous"] :=
  ⟨⟨Cache.sound_nil, LocationSource.isRegular_silent⟩, rfl, rfl, rfl, rfl⟩

end Scene
end EventLog

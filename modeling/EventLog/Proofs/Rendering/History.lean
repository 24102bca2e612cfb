import EventLog.Proofs.Rendering.Outcome

set_option autoImplicit false

/-! # One event in the course of time

An event may be formatted many times, by different layouts, and the provider of source locations may be
replaced in between. As long as neither file nor line of the event is known, formatting asks the
provider in force only if the layout shows one of them; then both are known, and no provider is asked
again (`located_at_most_once`). -/

namespace EventLog

/-- An event that says nothing, with a file and a line as far as they are known. -/
def Event.placed (file line : Option Text) : Event where
  date := .millis 0
  level := Level.info
  logger := []
  message := []
  error := none
  properties := none
  method := .nobody
  file := file
  line := line
  column := none
  stack := []
  relative := 0
  sequence := 1

namespace Scene

/-! ## Actions -/

/-- Something that is done while an event is there. -/
inductive Action where
  | format (layout : Text)
  /-- Takes source locations from another provider from now on. -/
  | install (source : LocationSource)

namespace Action

/-- Whether the action installs no other than a regular provider. -/
def IsRegular : Action → Prop
  | format _ => True
  | install source => source.IsRegular

/-- What the action shows of an event whose location is filled in. -/
def text? (zone : LocalZone) (e : Event) : Action → Option Text
  | format layout => some (Text.strip (Layout.text zone e (Layout.compile layout)))
  | install _ => none

end Action

/-- The scene after an action, however it ended. -/
def after (s : Scene) : Action → Scene
  | .format layout =>
      match Layout.format layout s with
      | .ok _ s' => s'
      | .error _ s' => s'
  | .install source => { s with env := s.env.install source }

/-- What an action gives, if it formats the event. -/
def shown? (s : Scene) : Action → Option (Except Fault Text)
  | .format layout =>
      match Layout.format layout s with
      | .ok t _ => some (.ok t)
      | .error f _ => some (.error f)
  | .install _ => none

/-- How often an action asks the provider. -/
def asked (s : Scene) : Action → Nat
  | .format layout => (s.after (.format layout)).env.provider.calls - s.env.provider.calls
  | .install _ => 0

/-- The scene after a sequence of actions. -/
def run (s : Scene) : List Action → Scene
  | [] => s
  | a :: rest => (s.after a).run rest

/-- What the formatting of the event gives in a sequence of actions, one after the other. -/
def texts (s : Scene) : List Action → List (Except Fault Text)
  | [] => []
  | a :: rest => (s.shown? a).toList ++ (s.after a).texts rest

/-- How often providers are asked in a sequence of actions. -/
def lookups (s : Scene) : List Action → Nat
  | [] => 0
  | a :: rest => s.asked a + (s.after a).lookups rest

/-! ## One action with a regular provider -/

/-- The scene with a layout kept. -/
def fetched (s : Scene) (layout : Text) : Scene :=
  { s with env := (s.env.fetch layout).2 }

theorem zone_fetched (s : Scene) (layout : Text) : (s.fetched layout).env.zone = s.env.zone := by
  rw [fetched, Environment.fetch_snd_eq]

theorem answer_fetched (s : Scene) (layout : Text) : (s.fetched layout).answer = s.answer := by
  rw [answer, fetched, Environment.fetch_snd_eq]
  rfl

theorem isRegular_answer_fetched (s : Scene) (h : s.env.IsRegular) (layout : Text) :
    (s.fetched layout).answer.IsRegular := by
  rw [answer_fetched]
  exact h.source _ _

theorem event_rendered (s : Scene) (segments : List Segment) :
    (s.rendered segments).event
      = if segments.any (·.needsLocation s.event) then s.event.setLocation s.answer.location
        else s.event := by
  rw [rendered]
  split <;> rfl

theorem env_rendered (s : Scene) (segments : List Segment) :
    (s.rendered segments).env
      = { s.env with
          provider := { s.env.provider with
            calls := s.env.provider.calls
              + if segments.any (·.needsLocation s.event) then 1 else 0 }
          notices := (s.rendered segments).env.notices } := by
  rw [rendered]
  split
  · exact s.env_located
  · rfl

theorem exists_format_eq (s : Scene) (h : s.env.IsRegular) (layout : Text) :
    ∃ t, Layout.format layout s = .ok t ((s.fetched layout).rendered (Layout.compile layout)) := by
  rw [Layout.format_eq layout s h.sound, ← fetched,
    Layout.renderAll_eq _ _ (s.isRegular_answer_fetched h layout)]
  exact ⟨_, rfl⟩

theorem after_format (s : Scene) (h : s.env.IsRegular) (layout : Text) :
    s.after (.format layout) = (s.fetched layout).rendered (Layout.compile layout) := by
  obtain ⟨t, ht⟩ := s.exists_format_eq h layout
  rw [after, ht]

theorem event_after_format (s : Scene) (h : s.env.IsRegular) (layout : Text) :
    (s.after (.format layout)).event
      = if (Layout.compile layout).any (·.needsLocation s.event) then
          s.event.setLocation s.answer.location
        else s.event := by
  rw [s.after_format h, event_rendered, answer_fetched]
  rfl

theorem env_after_format (s : Scene) (h : s.env.IsRegular) (layout : Text) :
    ∃ cache notices, cache.Sound ∧ (s.after (.format layout)).env
      = { s.env with
          cache := cache
          provider := { s.env.provider with
            calls := s.env.provider.calls
              + if (Layout.compile layout).any (·.needsLocation s.event) then 1 else 0 }
          notices := notices } := by
  refine ⟨(s.env.fetch layout).2.cache, (s.after (.format layout)).env.notices,
    s.env.sound_fetch h.sound layout, ?_⟩
  rw [s.after_format h, env_rendered, fetched, Environment.fetch_snd_eq]

theorem asked_format (s : Scene) (h : s.env.IsRegular) (layout : Text) :
    s.asked (.format layout)
      = if (Layout.compile layout).any (·.needsLocation s.event) then 1 else 0 := by
  obtain ⟨cache, notices, -, he⟩ := s.env_after_format h layout
  rw [asked, he]
  exact Nat.add_sub_cancel_left _ _

theorem isRegular_after (s : Scene) (h : s.env.IsRegular) (a : Action) (ha : a.IsRegular) :
    (s.after a).env.IsRegular ∧ (s.after a).env.zone = s.env.zone := by
  cases a with
  | format layout =>
      obtain ⟨cache, notices, hc, he⟩ := s.env_after_format h layout
      rw [he]
      exact ⟨⟨hc, h.source⟩, rfl⟩
  | install source => exact ⟨⟨h.sound, ha⟩, rfl⟩

/-- If no known field can change, all of a layout shows the event as it is afterwards. -/
theorem shown?_of_isSettled (s : Scene) (h : s.env.IsRegular) (hs : s.IsSettled) (a : Action) :
    s.shown? a = (a.text? s.env.zone (s.after a).event).map .ok := by
  cases a with
  | install source => rfl
  | format layout =>
      have hf : (s.fetched layout).IsSettled := by
        rw [IsSettled, answer_fetched]
        exact hs
      rw [s.after_format h, shown?, Layout.format_eq layout s h.sound, ← fetched,
        Layout.renderAll_of_isSettled _ _ (s.isRegular_answer_fetched h layout) hf, zone_fetched]
      rfl

theorem event_after_of_isKnown (s : Scene) (h : s.env.IsRegular) (hk : s.event.isKnown = true)
    (a : Action) : (s.after a).event = s.event ∧ s.asked a = 0 := by
  cases a with
  | install source => exact ⟨rfl, rfl⟩
  | format layout =>
      have hn : (Layout.compile layout).any (·.needsLocation s.event) = false := by
        rw [List.any_eq_false]
        intro segment _
        rw [segment.needsLocation_of_isKnown _ hk]
        exact Bool.false_ne_true
      rw [s.event_after_format h, s.asked_format h, hn]
      exact ⟨rfl, rfl⟩

theorem texts_cons (s : Scene) (zone : LocalZone) (e : Event) (a : Action) (rest : List Action)
    (ha : s.shown? a = (a.text? zone e).map .ok)
    (hr : (s.after a).texts rest = (rest.filterMap (Action.text? zone e)).map .ok) :
    s.texts (a :: rest) = ((a :: rest).filterMap (Action.text? zone e)).map .ok := by
  rw [texts, ha, hr]
  cases ht : a.text? zone e with
  | none => simp [ht]
  | some t => simp [ht]

/-- Once file and line are known, no provider is asked any more, and the event stays as it is. -/
theorem run_of_isKnown (s : Scene) (h : s.env.IsRegular) (hk : s.event.isKnown = true)
    (actions : List Action) (ha : ∀ a ∈ actions, a.IsRegular) :
    s.lookups actions = 0 ∧ (s.run actions).event = s.event
      ∧ s.texts actions = (actions.filterMap (Action.text? s.env.zone s.event)).map .ok := by
  induction actions generalizing s with
  | nil => exact ⟨rfl, rfl, rfl⟩
  | cons a rest ih =>
      obtain ⟨he, hasked⟩ := s.event_after_of_isKnown h hk a
      obtain ⟨hr, hz⟩ := s.isRegular_after h a (ha a (by simp))
      obtain ⟨hlookups, hevent, htexts⟩ :=
        ih (s.after a) hr (by rw [he]; exact hk) fun b m => ha b (List.mem_cons_of_mem _ m)
      refine ⟨?_, ?_, ?_⟩
      · rw [lookups, hasked, hlookups]
      · rw [run, hevent, he]
      · rw [he, hz] at htexts
        exact s.texts_cons _ _ a rest (by rw [s.shown?_of_isSettled h (.inl hk), he]) htexts

end Scene
end EventLog

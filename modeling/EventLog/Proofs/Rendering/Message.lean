import EventLog.Proofs.Rendering.History
import EventLog.Proofs.Rendering.Rendition

set_option autoImplicit false

/-! # Messages are shown as they are

The message of an event is text to be shown, and never a part of the layout: whatever it holds, it stands
where the layout shows it, and everything else is shown as it would be with any other message. So for a
layout and an event there are texts that do not depend on the message, one more than there are places
for it, and formatting puts the message between them (`message_shown_verbatim`).

Two renderings of an event with different messages are compared segment by segment. They ask the provider
at the same places and are told the same, since its answer does not depend on the message. -/

namespace EventLog

/-- The event with another message. -/
def Event.withMessage (e : Event) (m : Text) : Event :=
  { e with message := m }

/-- The scene with another message of the event. -/
def Scene.withMessage (s : Scene) (m : Text) : Scene :=
  { s with event := s.event.withMessage m }

/-- Whether the answers of the source do not depend on the message of the event. -/
def LocationSource.IgnoresMessage (s : LocationSource) : Prop :=
  ∀ calls e m, s.answer calls (e.withMessage m) = s.answer calls e

/-- The rendition with another message of the event. -/
def Rendition.withMessage (r : Rendition) (m : Text) : Rendition :=
  { r with event := r.event.withMessage m }

namespace Segment

/-- Whether the segment shows the message. -/
def isMessage : Segment → Bool
  | directive (some .message) _ _ => true
  | _ => false

theorem needsLocation_withMessage (e : Event) (m : Text) (segment : Segment) :
    segment.needsLocation (e.withMessage m) = segment.needsLocation e := by
  cases segment with
  | directive kind params after =>
      cases kind with
      | none => rfl
      | some d => cases d <;> rfl
  | _ => rfl

/-- Only a segment for the message looks at it. -/
theorem text_withMessage (zone : LocalZone) (e : Event) (m : Text) (segment : Segment)
    (h : segment.isMessage = false) :
    segment.text zone (e.withMessage m) = segment.text zone e := by
  cases segment with
  | directive kind params after =>
      cases kind with
      | none => rfl
      | some d =>
          cases d with
          | message => cases h
          | _ => rfl
  | _ => rfl

theorem rendition_withMessage (zone : LocalZone) (provider : Provider)
    (hp : provider.source.IgnoresMessage) (e : Event) (m : Text) (segment : Segment)
    (h : segment.isMessage = false) :
    segment.rendition zone provider (e.withMessage m)
      = (segment.rendition zone provider e).withMessage m := by
  have ha : provider.locate (e.withMessage m) = provider.locate e :=
    Prod.ext (hp provider.calls e m) rfl
  have ht : ∀ l, segment.text zone ((e.withMessage m).setLocation l)
      = segment.text zone (e.setLocation l) :=
    fun l => segment.text_withMessage zone (e.setLocation l) m h
  rw [rendition, rendition, needsLocation_withMessage, ha]
  split
  · simp only [ht]
    cases (provider.locate e).1 with
    | found l => rfl
    | unknown => rfl
    | raised x =>
        dsimp only
        split <;> rfl
  · rw [segment.text_withMessage zone e m h]
    rfl

/-- A segment for the message shows it, and then always the same. -/
theorem exists_rendition_of_isMessage (zone : LocalZone) (segment : Segment)
    (h : segment.isMessage = true) :
    ∃ after, ∀ provider e,
      segment.rendition zone provider e = ⟨.ok (e.message ++ after), provider, e, []⟩ := by
  cases segment with
  | directive kind params after =>
      cases kind with
      | none => cases h
      | some d =>
          cases d with
          | message => exact ⟨after, fun provider e => rfl⟩
          | _ => cases h
  | _ => cases h

end Segment

/-! ## Texts with places for the message -/

/-- Whether a result puts the message `n` times between texts that do not depend on it, or is the same
    fault for all messages. -/
def Embeds (n : Nat) (result : Text → Except Fault Text) : Prop :=
  (∃ (first : Text) (rest : List Text), rest.length = n
      ∧ ∀ m, result m = .ok (first ++ rest.flatMap (m ++ ·)))
    ∨ ∃ f, ∀ m, result m = .error f

theorem Embeds.text_append {n : Nat} {result : Text → Except Fault Text} (h : Embeds n result)
    (t : Text) : Embeds n fun m => (result m).map (t ++ ·) := by
  rcases h with ⟨first, rest, hn, hr⟩ | ⟨f, hf⟩
  · exact .inl ⟨t ++ first, rest, hn, fun m => by simp [hr, Except.map]⟩
  · exact .inr ⟨f, fun m => by simp [hf, Except.map]⟩

theorem Embeds.message_append {n : Nat} {result : Text → Except Fault Text} (h : Embeds n result)
    (after : Text) : Embeds (n + 1) fun m => (result m).map (m ++ after ++ ·) := by
  rcases h with ⟨first, rest, hn, hr⟩ | ⟨f, hf⟩
  · exact .inl ⟨[], (after ++ first) :: rest, by simp [hn], fun m => by simp [hr, Except.map]⟩
  · exact .inr ⟨f, fun m => by simp [hf, Except.map]⟩

namespace Layout

/-- Rendering puts the message into each place for it, and leaves behind what it would leave behind with
    any other message. -/
theorem exists_rendition_withMessage (zone : LocalZone) (provider : Provider)
    (hp : provider.source.IgnoresMessage) (e : Event) (segments : List Segment) :
    ∃ (result : Text → Except Fault Text) (provider' : Provider) (e' : Event)
        (notices : List Notice), Embeds (segments.countP Segment.isMessage) result
      ∧ ∀ m, rendition zone provider (e.withMessage m) segments
        = ⟨result m, provider', e'.withMessage m, notices⟩ := by
  induction segments generalizing provider e with
  | nil => exact ⟨fun _ => .ok [], provider, e, [], .inl ⟨[], [], rfl, fun _ => rfl⟩, fun _ => rfl⟩
  | cons segment rest ih =>
      cases hs : segment.isMessage with
      | true =>
          obtain ⟨after, ha⟩ := segment.exists_rendition_of_isMessage zone hs
          obtain ⟨result, provider', e', notices, hresult, hr⟩ := ih provider hp e
          refine ⟨fun m => (result m).map (m ++ after ++ ·), provider', e', notices, ?_, fun m => ?_⟩
          · rw [List.countP_cons_of_pos hs]
            exact hresult.message_append after
          · rw [rendition, ha, Rendition.andThen_ok, hr]
            rfl
      | false =>
          rw [List.countP_cons_of_neg (by simp [hs])]
          have hm := fun m => segment.rendition_withMessage zone provider hp e m hs
          have hsource := (segment.rendition_isFrom zone provider e).source
          generalize segment.rendition zone provider e = r at hm hsource
          obtain ⟨shown, provider₁, e₁, notices₁⟩ := r
          have hp₁ : provider₁.source.IgnoresMessage := by
            rw [show provider₁.source = provider.source from hsource]
            exact hp
          cases shown with
          | error f =>
              -- the rest of the segments is not rendered, for no message
              refine ⟨fun _ => .error f, provider₁, e₁, notices₁, .inr ⟨f, fun _ => rfl⟩, fun m => ?_⟩
              rw [rendition, hm]
              rfl
          | ok t =>
              obtain ⟨result, provider', e', notices, hresult, hr⟩ := ih provider₁ hp₁ e₁
              refine ⟨fun m => (result m).map (t ++ ·), provider', e', notices₁ ++ notices,
                hresult.text_append t, fun m => ?_⟩
              rw [rendition, hm, Rendition.withMessage, Rendition.andThen_ok, hr]

/-- Formatting by a layout, for all messages of an event at once, with a provider whose answers do not
    depend on the message: There are texts that do not depend on the message either, one before and one
    after each segment for the message, and formatting puts the message between them and strips the white
    space around the whole. What it leaves behind differs in the message only. If the provider raises an
    exception that ends the formatting, it does so for every message. -/
theorem message_shown_verbatim (layout : Text) (s : Scene) (hc : s.env.cache.Sound)
    (hp : s.env.provider.source.IgnoresMessage) :
    (∃ (first : Text) (rest : List Text) (s' : Scene),
        rest.length = (compile layout).countP Segment.isMessage
          ∧ ∀ m, let shown := first ++ rest.flatMap (m ++ ·)
            format layout (s.withMessage m) = .ok (Text.strip shown) (s'.withMessage m)
              ∧ ∃ left right, shown = left ++ Text.strip shown ++ right
                ∧ (∀ c ∈ left, Text.isBlank c = true) ∧ ∀ c ∈ right, Text.isBlank c = true)
      ∨ ∃ (x : Exception) (s' : Scene), x.isTolerated = false
          ∧ (∃ calls e, s.env.provider.source.answer calls e = .raised x)
          ∧ ∀ m, format layout (s.withMessage m) = .error (.raised x) (s'.withMessage m) := by
  obtain ⟨env, e⟩ := s
  obtain ⟨result, provider, e', notices, hresult, hr⟩ :=
    exists_rendition_withMessage env.zone env.provider hp e (compile layout)
  let env' : Environment :=
    { (env.fetch layout).2 with
      provider := provider
      notices := (env.fetch layout).2.notices ++ notices }
  have hformat : ∀ m, format layout (Scene.withMessage ⟨env, e⟩ m)
      = (⟨(result m).map Text.strip, provider, e'.withMessage m, notices⟩ : Rendition).inEnvironment
          (env.fetch layout).2 := by
    intro m
    show format layout ⟨env, e.withMessage m⟩ = _
    rw [format_eq_inEnvironment, env.fetch_fst_of_sound hc, hr]
    rfl
  rcases hresult with ⟨first, rest, hn, hm⟩ | ⟨f, hf⟩
  · refine .inl ⟨first, rest, ⟨env', e'⟩, hn, fun m => ⟨?_, Text.exists_eq_append_strip _⟩⟩
    rw [hformat, hm]
    rfl
  · have hfrom := rendition_isFrom env.zone env.provider (e.withMessage []) (compile layout)
    rw [hr, hf] at hfrom
    obtain ⟨x, rfl, hx, hraised⟩ := hfrom.fault f rfl
    refine .inr ⟨x, ⟨env', e'⟩, hx, hraised, fun m => ?_⟩
    rw [hformat, hf]
    rfl

/-- A layout with two places for the message shows it twice, whatever it is, even if the provider is asked
    between the two. -/
theorem message_shown_twice :
    let s : Scene :=
      ⟨(Environment.initial .universal).install
          (.custom fun _ _ => .found ⟨some "app", .int 7, .null⟩), Event.placed none none⟩
    ∃ (first : Text) (rest : List Text) (s' : Scene), rest.length = 2
      ∧ ∀ m, format "%m at %F:%L, %msg" (s.withMessage m)
        = .ok (Text.strip (first ++ rest.flatMap (m ++ ·))) (s'.withMessage m) := by
  intro s
  rcases message_shown_verbatim "%m at %F:%L, %msg" s Cache.sound_nil (fun _ _ _ => rfl) with
    ⟨first, rest, s', hn, hm⟩ | ⟨x, s', -, ⟨calls, e, hx⟩, -⟩
  · exact ⟨first, rest, s', hn, fun m => (hm m).1⟩
  · cases hx

end Layout
end EventLog

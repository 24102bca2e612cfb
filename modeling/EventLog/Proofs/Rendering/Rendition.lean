import EventLog.Proofs.Rendering.Outcome

set_option autoImplicit false

/-! # What rendering reads and changes

Rendering reads the zone, the provider and the event, and nothing else of the scene. What it comes to
is a `Rendition`: a text or a fault, the provider and the event afterwards, and the notices given on the
way. `rendition` says this without any environment, and `format_eq_inEnvironment` that formatting does
just this, whatever layouts are kept, whatever notices were given and whatever was written before.

So two scenes that differ only in these show the same, and rendering neither keeps a layout nor writes
to a stream. What else holds of every rendition is `IsFrom`. -/

namespace EventLog

/-- The event without its place. -/
def Event.unplaced (e : Event) : Event :=
  { e with file := none, line := none, column := none }

/-- What a rendering comes to: its text or the fault that ended it, the provider and the event
    afterwards, and the notices given on the way. -/
structure Rendition where
  result : Except Fault Text
  provider : Provider
  event : Event
  notices : List Notice

namespace Rendition

/-- The end of a rendering in an environment. -/
def inEnvironment (r : Rendition) (env : Environment) : EStateM.Result Fault Scene Text :=
  let s : Scene :=
    ⟨{ env with provider := r.provider, notices := env.notices ++ r.notices }, r.event⟩
  match r.result with
  | .ok t => .ok t s
  | .error f => .error f s

/-- A rendering that goes on with another one, unless it ended with a fault. -/
def andThen (r : Rendition) (next : Provider → Event → Rendition) : Rendition :=
  match r.result with
  | .ok t =>
      let q := next r.provider r.event
      ⟨q.result.map (t ++ ·), q.provider, q.event, r.notices ++ q.notices⟩
  | .error _ => r

@[simp] theorem andThen_ok (t : Text) (provider : Provider) (e : Event) (notices : List Notice)
    (next : Provider → Event → Rendition) :
    (⟨.ok t, provider, e, notices⟩ : Rendition).andThen next
      = ⟨(next provider e).result.map (t ++ ·), (next provider e).provider,
          (next provider e).event, notices ++ (next provider e).notices⟩ := rfl

@[simp] theorem andThen_error (f : Fault) (provider : Provider) (e : Event)
    (notices : List Notice) (next : Provider → Event → Rendition) :
    (⟨.error f, provider, e, notices⟩ : Rendition).andThen next
      = ⟨.error f, provider, e, notices⟩ := rfl

/-- The same with the white space around the text removed. -/
def stripped (r : Rendition) : Rendition :=
  { r with result := r.result.map Text.strip }

/-- What holds of a rendering that starts with this provider and this event: the provider is asked but
    not replaced, nothing but the place of the event is changed, each notice is about a failed lookup,
    and a fault is an exception of the provider that does not just say "not known". -/
structure IsFrom (r : Rendition) (provider : Provider) (e : Event) : Prop where
  source : r.provider.source = provider.source
  event : r.event.unplaced = e.unplaced
  notices : ∀ n ∈ r.notices, ∃ reason, n = .lookupFailed reason
  fault : ∀ f, r.result = .error f → ∃ x, f = .raised x ∧ x.isTolerated = false
    ∧ ∃ calls e', provider.source.answer calls e' = .raised x

theorem IsFrom.andThen {r : Rendition} {provider : Provider} {e : Event}
    (h : r.IsFrom provider e) {next : Provider → Event → Rendition}
    (hn : (next r.provider r.event).IsFrom r.provider r.event) :
    (r.andThen next).IsFrom provider e := by
  unfold Rendition.andThen
  split
  · refine ⟨hn.source.trans h.source, hn.event.trans h.event, fun n m => ?_, fun f hf => ?_⟩
    · exact (List.mem_append.1 m).elim (h.notices n) (hn.notices n)
    · cases hq : (next r.provider r.event).result with
      | ok t => simp [hq, Except.map] at hf
      | error g =>
          have hg : g = f := by simpa [hq, Except.map] using hf
          rw [← h.source]
          exact hn.fault f (hg ▸ hq)
  · exact h

end Rendition

/-! ## Segments and layouts -/

/-- What rendering a segment comes to. -/
def Segment.rendition (zone : LocalZone) (provider : Provider) (e : Event) (segment : Segment) :
    Rendition :=
  if segment.needsLocation e then
    let shown (l : SourceLocation) (notices : List Notice) : Rendition :=
      ⟨.ok (segment.text zone (e.setLocation l)), (provider.locate e).2, e.setLocation l, notices⟩
    match (provider.locate e).1 with
    | .found l => shown l []
    | .unknown => shown .unknown []
    | .raised x =>
        if x.isTolerated then shown .unknown [.lookupFailed x.text]
        else ⟨.error (.raised x), (provider.locate e).2, e, []⟩
  else ⟨.ok (segment.text zone e), provider, e, []⟩

theorem Segment.rendition_of_no_empty_field (zone : LocalZone) (provider : Provider) (e : Event)
    (segment : Segment) (h : segment.needsLocation e = false) :
    segment.rendition zone provider e = ⟨.ok (segment.text zone e), provider, e, []⟩ := by
  rw [rendition, h, if_neg Bool.false_ne_true]

theorem Segment.render_eq_inEnvironment (segment : Segment) (env : Environment) (e : Event) :
    segment.render ⟨env, e⟩
      = (segment.rendition env.zone env.provider e).inEnvironment env := by
  have ha : Scene.answer ⟨env, e⟩ = (env.provider.locate e).1 := rfl
  rw [segment.render_eq, rendition]
  dsimp only
  by_cases hn : segment.needsLocation e = true
  · rw [if_pos hn, if_pos hn, Scene.locate_eq, ha]
    cases (env.provider.locate e).1 with
    | found l => simp [Rendition.inEnvironment, Scene.setLocation]
    | unknown => simp [Rendition.inEnvironment, Scene.setLocation]
    | raised x =>
        dsimp only
        by_cases hx : x.isTolerated = true
        · rw [if_pos hx, if_pos hx]
          rfl
        · rw [if_neg hx, if_neg hx]
          simp [Rendition.inEnvironment]
  · rw [if_neg hn, if_neg hn]
    simp [Rendition.inEnvironment]

theorem Segment.rendition_isFrom (zone : LocalZone) (provider : Provider) (e : Event)
    (segment : Segment) : (segment.rendition zone provider e).IsFrom provider e := by
  unfold rendition
  split
  · cases ha : (provider.locate e).1 with
    | found l => exact ⟨rfl, rfl, by simp, by simp⟩
    | unknown => exact ⟨rfl, rfl, by simp, by simp⟩
    | raised x =>
        dsimp only
        split
        · exact ⟨rfl, rfl, by simp, by simp⟩
        · rename_i hx
          refine ⟨rfl, rfl, by simp, fun f hf => ?_⟩
          obtain rfl := Except.error.inj hf
          exact ⟨x, rfl, eq_false_of_ne_true hx, _, _, ha⟩
  · exact ⟨rfl, rfl, by simp, by simp⟩

namespace Layout

/-- What rendering segments one after the other comes to. -/
def rendition (zone : LocalZone) : Provider → Event → List Segment → Rendition
  | provider, e, [] => ⟨.ok [], provider, e, []⟩
  | provider, e, segment :: rest =>
      (segment.rendition zone provider e).andThen fun provider e => rendition zone provider e rest

theorem renderAll_eq_inEnvironment (segments : List Segment) (env : Environment) (e : Event) :
    renderAll segments ⟨env, e⟩
      = (rendition env.zone env.provider e segments).inEnvironment env := by
  induction segments generalizing env e with
  | nil => simp [rendition, Rendition.inEnvironment]
  | cons segment rest ih =>
      rw [renderAll_cons, segment.render_eq_inEnvironment, rendition]
      cases hr : (segment.rendition env.zone env.provider e).result with
      | error f => simp [Rendition.inEnvironment, Rendition.andThen, hr]
      | ok t =>
          simp only [Rendition.inEnvironment, Rendition.andThen, hr, ih]
          cases (rendition env.zone (segment.rendition env.zone env.provider e).provider
            (segment.rendition env.zone env.provider e).event rest).result with
          | error f => simp [Except.map]
          | ok u => simp [Except.map]

theorem rendition_isFrom (zone : LocalZone) (provider : Provider) (e : Event)
    (segments : List Segment) : (rendition zone provider e segments).IsFrom provider e := by
  induction segments generalizing provider e with
  | nil => exact ⟨rfl, rfl, by simp [rendition], by simp [rendition]⟩
  | cons segment rest ih =>
      exact (segment.rendition_isFrom zone provider e).andThen (ih _ _)

/-- Formatting fetches the segments of the layout and renders them. -/
theorem format_eq_inEnvironment (layout : Text) (env : Environment) (e : Event) :
    format layout ⟨env, e⟩
      = (rendition env.zone env.provider e (env.fetch layout).1).stripped.inEnvironment
          (env.fetch layout).2 := by
  have hz : (env.fetch layout).2.zone = env.zone := by rw [env.fetch_snd_eq]
  have hp : (env.fetch layout).2.provider = env.provider := by rw [env.fetch_snd_eq]
  show renderStripped (env.fetch layout).1 ⟨(env.fetch layout).2, e⟩ = _
  simp only [renderStripped, bind, EStateM.bind, renderAll_eq_inEnvironment, hz, hp]
  unfold Rendition.inEnvironment Rendition.stripped
  cases (rendition env.zone env.provider e (env.fetch layout).1).result <;> rfl

end Layout
end EventLog

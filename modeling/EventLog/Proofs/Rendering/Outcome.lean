import EventLog.Rendering

set_option autoImplicit false

/-! # What rendering shows and what it leaves behind

A provider is regular if its answers say where something is in the form that is expected, or fail only
to say that they do not know. With such a provider rendering always ends with a text. It asks for the
location of the event when it comes to the first segment that needs it, and never again: an answer
leaves neither file nor line empty. So there are two parts of a layout, one rendered with the event as
it came and one with its location filled in (`renderAll_eq`). If the answer agrees with what was known
already, the whole layout is rendered with one and the same event (`renderAll_of_isSettled`). -/

namespace EventLog

/-! ## Regular answers -/

namespace Value

/-- Whether the value can be the number of a line or a column, or says that there is none. -/
def isPosition : Value → Bool
  | null | int _ | bool _ => true
  | _ => false

end Value

theorem Text.ofInt_ne_nil (n : Int) : Text.ofInt n ≠ [] := by
  cases n with
  | ofNat n => exact Nat.toDigits_ne_nil
  | negSucc n => simp [Text.ofInt]

namespace SourceLocation

theorem positionText_ne_nil (v : Value) (h : v.isPosition = true) : positionText v ≠ [] := by
  cases v with
  | null => decide
  | bool b => cases b <;> simp [positionText, Value.text, Value.expression, Value.boolText]
  | int n => simpa [positionText] using Text.ofInt_ne_nil n
  | _ => simp [Value.isPosition] at h

end SourceLocation

namespace Lookup

/-- Whether the answer is a place with numbers for line and column as far as they are known, or none,
    or a failure that is tolerated. -/
def IsRegular : Lookup → Prop
  | found l => l.line.isPosition = true ∧ l.column.isPosition = true
  | unknown => True
  | raised e => e.isTolerated = true

/-- The place that an answer tells. -/
def location : Lookup → SourceLocation
  | found l => l
  | unknown | raised _ => .unknown

theorem IsRegular.line {answer : Lookup} (h : answer.IsRegular) :
    answer.location.line.isPosition = true := by
  cases answer with
  | found l => exact h.1
  | unknown => rfl
  | raised e => rfl

end Lookup

namespace LocationSource

/-- Whether all answers of the source are regular. -/
def IsRegular (s : LocationSource) : Prop :=
  ∀ calls e, (s.answer calls e).IsRegular

theorem isRegular_silent : silent.IsRegular :=
  fun _ _ => trivial

end LocationSource

namespace Environment

/-- Whether kept layouts are those that compiling gives, and the provider is regular. -/
structure IsRegular (env : Environment) : Prop where
  sound : env.cache.Sound
  source : env.provider.source.IsRegular

theorem fetch_fst_of_sound (env : Environment) (h : env.cache.Sound) (layout : Text) :
    (env.fetch layout).1 = Layout.compile layout := by
  rw [(env.fetch_cache layout).2, h.fetch_fst layout]

/-- Fetching a layout changes nothing but the kept layouts and the notices. -/
theorem fetch_snd_eq (env : Environment) (layout : Text) :
    (env.fetch layout).2
      = { env with cache := (env.fetch layout).2.cache, notices := (env.fetch layout).2.notices } := by
  unfold fetch
  cases env.cache.get? layout <;> rfl

theorem sound_fetch (env : Environment) (h : env.cache.Sound) (layout : Text) :
    (env.fetch layout).2.cache.Sound := by
  rw [(env.fetch_cache layout).1]
  exact h.fetch layout

end Environment

/-! ## Events with known and unknown places -/

namespace Event

/-- Whether both file and line are known. -/
def isKnown (e : Event) : Bool :=
  Text.isPresent e.file && Text.isPresent e.line

/-- Whether a place has the file and the line of the event as far as they are known. -/
structure Agrees (e : Event) (l : SourceLocation) : Prop where
  file : Text.isPresent e.file = true → e.file = some l.fileText
  line : Text.isPresent e.line = true → e.line = some (SourceLocation.positionText l.line)

theorem isKnown_setLocation (e : Event) (l : SourceLocation) (h : l.line.isPosition = true) :
    (e.setLocation l).isKnown = true := by
  have hl : Text.isPresent (e.setLocation l).line = true := by
    have hne := SourceLocation.positionText_ne_nil l.line h
    show Text.isPresent (some (SourceLocation.positionText l.line)) = true
    obtain ⟨c, t, ht⟩ := List.exists_cons_of_ne_nil hne
    rw [ht]
    rfl
  rw [isKnown, isPresent_file_setLocation, hl, Bool.and_self]

end Event

/-! ## Segments -/

namespace Segment

/-- Whether the segment shows a location field that is still empty. -/
def needsLocation (e : Event) : Segment → Bool
  | directive (some d) _ _ => d.needsLocation e
  | _ => false

/-- What the segment shows of an event whose location is filled in. -/
def text (zone : LocalZone) (e : Event) : Segment → Text
  | literal t => t
  | nothing => []
  | directive none _ after => after
  | directive (some d) params after => (d.text zone e params).getD [] ++ after

theorem needsLocation_of_isKnown (e : Event) (h : e.isKnown = true) (segment : Segment) :
    segment.needsLocation e = false := by
  rw [Event.isKnown, Bool.and_eq_true] at h
  cases segment with
  | directive kind params after =>
      cases kind with
      | none => rfl
      | some d => cases d <;> simp [needsLocation, Directive.needsLocation, h]
  | _ => rfl

/-- A segment that needs no place shows what was known, so a place that agrees with it changes nothing. -/
theorem text_setLocation (zone : LocalZone) (e : Event) (l : SourceLocation) (h : e.Agrees l)
    (segment : Segment) (hn : segment.needsLocation e = false) :
    segment.text zone (e.setLocation l) = segment.text zone e := by
  cases segment with
  | directive kind params after =>
      cases kind with
      | none => rfl
      | some d =>
          cases d with
          | file =>
              have hf : e.file = some l.fileText :=
                h.file (by simpa [needsLocation, Directive.needsLocation] using hn)
              rw [text, text, Directive.text, Directive.text, hf]
              rfl
          | line =>
              have hl : e.line = some (SourceLocation.positionText l.line) :=
                h.line (by simpa [needsLocation, Directive.needsLocation] using hn)
              rw [text, text, Directive.text, Directive.text, hl]
              rfl
          | _ => rfl
  | _ => rfl

end Segment

/-! ## Finding the place -/

namespace Scene

/-- What the provider would answer. -/
def answer (s : Scene) : Lookup :=
  s.env.provider.source.answer s.env.provider.calls s.event

/-- The scene after the provider was asked. -/
def located (s : Scene) : Scene where
  env :=
    let env := { s.env with provider := (s.env.provider.locate s.event).2 }
    match s.answer with
    | .raised e => env.report (.lookupFailed e.text)
    | _ => env
  event := s.event.setLocation s.answer.location

theorem locate_eq (s : Scene) :
    locate s
      = let s' := { s with env := { s.env with provider := (s.env.provider.locate s.event).2 } }
        match s.answer with
        | .found l => .ok () (s'.setLocation l)
        | .unknown => .ok () (s'.setLocation .unknown)
        | .raised e =>
            if e.isTolerated then
              .ok () ({ s' with env := s'.env.report (.lookupFailed e.text) }.setLocation .unknown)
            else .error (.raised e) s' :=
  rfl

theorem locate_of_isRegular (s : Scene) (h : s.answer.IsRegular) : locate s = .ok () s.located := by
  rw [locate_eq, located]
  cases hs : s.answer with
  | found l => rfl
  | unknown => rfl
  | raised e =>
      rw [hs] at h
      have ht : e.isTolerated = true := h
      dsimp only
      rw [if_pos ht]
      rfl

theorem env_located (s : Scene) :
    s.located.env
      = { s.env with
          provider := { s.env.provider with calls := s.env.provider.calls + 1 }
          notices := s.located.env.notices } := by
  unfold located
  cases s.answer <;> rfl

theorem isKnown_located (s : Scene) (h : s.answer.IsRegular) : s.located.event.isKnown = true :=
  s.event.isKnown_setLocation _ h.line

/-- Whether no field of the event that is known can get another value: either both file and line are
    known, or the provider would answer with what is known. -/
def IsSettled (s : Scene) : Prop :=
  s.event.isKnown = true ∨ s.event.Agrees s.answer.location

/-- The scene after the segments were rendered: the place was found if one of them needs it. -/
def rendered (s : Scene) (segments : List Segment) : Scene :=
  if segments.any (·.needsLocation s.event) then s.located else s

end Scene

/-! ## Rendering -/

/-- A segment that needs the place of the event asks for it and is rendered then. -/
theorem Segment.render_eq (segment : Segment) (s : Scene) :
    segment.render s
      = if segment.needsLocation s.event then
          match Scene.locate s with
          | .ok _ s' => .ok (segment.text s'.env.zone s'.event) s'
          | .error f s' => .error f s'
        else .ok (segment.text s.env.zone s.event) s := by
  cases segment with
  | literal t => rfl
  | nothing => rfl
  | directive kind params after =>
      cases kind with
      | none => rfl
      | some d =>
          show (Directive.render (some d) params >>= _) s
            = if d.needsLocation s.event then _ else _
          have hget : ∀ s : Scene, (get : EStateM Fault Scene Scene) s = .ok s s := fun _ => rfl
          by_cases h : d.needsLocation s.event = true
          · rw [if_pos h]
            simp only [bind, EStateM.bind, Directive.render, hget, h, if_true]
            cases Scene.locate s <;> rfl
          · rw [if_neg h]
            simp only [bind, EStateM.bind, Directive.render, hget, h]
            rfl

namespace Layout

/-- What the segments show of an event whose location is filled in. -/
def text (zone : LocalZone) (e : Event) (segments : List Segment) : Text :=
  segments.flatMap (Segment.text zone e)

theorem text_append (zone : LocalZone) (e : Event) (segments others : List Segment) :
    text zone e (segments ++ others) = text zone e segments ++ text zone e others :=
  List.flatMap_append

theorem text_setLocation (zone : LocalZone) (e : Event) (l : SourceLocation) (h : e.Agrees l)
    (segments : List Segment) (hn : ∀ segment ∈ segments, segment.needsLocation e = false) :
    text zone (e.setLocation l) segments = text zone e segments := by
  induction segments with
  | nil => rfl
  | cons segment rest ih =>
      have hr := ih fun other m => hn other (List.mem_cons_of_mem _ m)
      rw [text, List.flatMap_cons, segment.text_setLocation zone e l h (hn segment (by simp))]
      exact congrArg _ hr

theorem renderAll_of_no_empty_field (segments : List Segment) (s : Scene)
    (h : ∀ segment ∈ segments, segment.needsLocation s.event = false) :
    renderAll segments s = .ok (text s.env.zone s.event segments) s := by
  induction segments with
  | nil => rfl
  | cons segment rest ih =>
      rw [renderAll_cons, segment.render_eq, h segment (by simp), if_neg Bool.false_ne_true]
      dsimp only
      rw [ih fun other m => h other (List.mem_cons_of_mem _ m)]
      rfl

/-- The segments in front of the first one that needs the place are rendered with the event as it came,
    and all others with the place filled in. -/
theorem renderAll_eq (segments : List Segment) (s : Scene) (h : s.answer.IsRegular) :
    renderAll segments s
      = .ok (text s.env.zone s.event (segments.takeWhile (!·.needsLocation s.event))
          ++ text s.env.zone (s.rendered segments).event
              (segments.dropWhile (!·.needsLocation s.event)))
        (s.rendered segments) := by
  induction segments with
  | nil => rfl
  | cons segment rest ih =>
      rw [renderAll_cons, segment.render_eq]
      by_cases hn : segment.needsLocation s.event = true
      · -- from here on the place is known
        have hk : ∀ other ∈ rest, other.needsLocation s.located.event = false := fun other _ =>
          other.needsLocation_of_isKnown _ (s.isKnown_located h)
        have hr : s.rendered (segment :: rest) = s.located := by
          rw [Scene.rendered, List.any_cons, hn, Bool.true_or, if_pos rfl]
        have hz : s.located.env.zone = s.env.zone := by rw [s.env_located]
        rw [if_pos hn, s.locate_of_isRegular h, hr]
        dsimp only
        rw [renderAll_of_no_empty_field rest s.located hk, hz]
        simp [hn, text]
      · have hn' : segment.needsLocation s.event = false := eq_false_of_ne_true hn
        have hr : s.rendered (segment :: rest) = s.rendered rest := by
          rw [Scene.rendered, Scene.rendered, List.any_cons, hn', Bool.false_or]
        rw [if_neg hn, hr]
        dsimp only
        rw [ih]
        simp [hn', text]

/-- If no known field can change, all of the layout is rendered with one and the same event. -/
theorem renderAll_of_isSettled (segments : List Segment) (s : Scene) (h : s.answer.IsRegular)
    (hs : s.IsSettled) :
    renderAll segments s
      = .ok (text s.env.zone (s.rendered segments).event segments) (s.rendered segments) := by
  rcases hs with hk | ha
  · have hn : ∀ segment ∈ segments, segment.needsLocation s.event = false :=
      fun segment _ => segment.needsLocation_of_isKnown _ hk
    have hr : s.rendered segments = s := by
      rw [Scene.rendered, if_neg]
      rw [List.any_eq_true]
      rintro ⟨segment, m, hneeds⟩
      rw [hn segment m] at hneeds
      cases hneeds
    rw [hr, renderAll_of_no_empty_field segments s hn]
  · have hfront : text s.env.zone (s.rendered segments).event
          (segments.takeWhile (!·.needsLocation s.event))
        = text s.env.zone s.event (segments.takeWhile (!·.needsLocation s.event)) := by
      rw [Scene.rendered]
      split
      · refine text_setLocation _ _ _ ha _ fun segment m => ?_
        have hs := List.all_eq_true.1 List.all_takeWhile segment m
        simpa using hs
      · rfl
    rw [renderAll_eq segments s h, ← hfront, ← text_append, List.takeWhile_append_dropWhile]

theorem format_eq (layout : Text) (s : Scene) (h : s.env.cache.Sound) :
    format layout s
      = match renderAll (compile layout) { s with env := (s.env.fetch layout).2 } with
        | .ok t s' => .ok (Text.strip t) s'
        | .error f s' => .error f s' := by
  rw [← s.env.fetch_fst_of_sound h layout]
  show renderStripped (s.env.fetch layout).1 { s with env := (s.env.fetch layout).2 } = _
  simp only [renderStripped, bind, EStateM.bind]
  cases renderAll (s.env.fetch layout).1 { s with env := (s.env.fetch layout).2 } <;> rfl

end Layout
end EventLog

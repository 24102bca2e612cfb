import EventLog.Proofs.Session.Written

set_option autoImplicit false

/-! # Numbers of events

Each logger numbers its events by its own calls. What is done in between, be it with other loggers, does
not matter, and neither does where an event goes: the number is taken before the event is delivered, and a
delivery does not give it back (`nextNumber_after`). `dispatches` reads off a history the log calls with
their events, and `numbers_under_interleaving` says of them which numbers an appender writes. -/

namespace EventLog

/-! ## Where a number is shown -/

namespace Layout

theorem renderAll_append (before segments : List Segment) (s : Scene) :
    renderAll (before ++ segments) s
      = match renderAll before s with
        | .error f s₁ => .error f s₁
        | .ok u s₁ =>
            match renderAll segments s₁ with
            | .error f s₂ => .error f s₂
            | .ok v s₂ => .ok (u ++ v) s₂ := by
  induction before generalizing s with
  | nil =>
      rw [List.nil_append, renderAll_nil]
      dsimp only
      cases renderAll segments s <;> rfl
  | cons segment rest ih =>
      rw [List.cons_append, renderAll_cons, renderAll_cons]
      cases segment.render s with
      | error f s₁ => rfl
      | ok t s₁ =>
          dsimp only
          rw [ih]
          cases renderAll rest s₁ with
          | error f s₂ => rfl
          | ok u s₂ =>
              dsimp only
              cases renderAll segments s₂ with
              | error f s₃ => rfl
              | ok v s₃ => simp

/-- Whether the text shows the event by the layout, with its number in each place for it: the number and
    the text after its directive stand between what the segments before show and what those after it
    show, and white space is removed only around the whole. -/
def ShowsNumber (layout : Text) (e : Event) (t : Text) : Prop :=
  ∃ s : Scene, s.event.unplaced = e.unplaced
    ∧ ∀ before params after rest,
        compile layout = before ++ .directive (some .sequence) params after :: rest →
          ∃ u v s₁ s₂, renderAll before s = .ok u s₁ ∧ renderAll rest s₁ = .ok v s₂
            ∧ t = Text.strip (u ++ (Text.ofInt e.sequence ++ after ++ v))

/-- Rendering changes nothing of an event but its place. -/
theorem unplaced_of_renderAll {segments : List Segment} {s s' : Scene} {t : Text}
    (h : renderAll segments s = .ok t s') : s'.event.unplaced = s.event.unplaced := by
  obtain ⟨env, e⟩ := s
  have hp := (rendition_isFrom env.zone env.provider e segments).event
  rw [renderAll_eq_inEnvironment, Rendition.inEnvironment] at h
  split at h
  · obtain ⟨-, rfl⟩ := EStateM.Result.ok.inj h
    exact hp
  · cases h

theorem showsNumber_of_format {layout t : Text} {s s' : Scene} {e : Event}
    (h : format layout s = .ok t s') (hc : s.env.cache.Sound) (he : s.event.unplaced = e.unplaced) :
    ShowsNumber layout e t := by
  refine ⟨{ s with env := (s.env.fetch layout).2 }, he, fun before params after rest hl => ?_⟩
  have hf : renderStripped (s.env.fetch layout).1 { s with env := (s.env.fetch layout).2 }
      = .ok t s' := h
  rw [s.env.fetch_fst_of_sound hc, hl, renderStripped, bind_apply, renderAll_append] at hf
  cases hu : renderAll before { s with env := (s.env.fetch layout).2 } with
  | error f s₁ =>
      rw [hu] at hf
      cases hf
  | ok u s₁ =>
      have hn : s₁.event.sequence = e.sequence := by
        show s₁.event.unplaced.sequence = e.unplaced.sequence
        rw [unplaced_of_renderAll hu, ← he]
      have hs : (Segment.directive (some .sequence) params after).render s₁
          = .ok (Text.ofInt e.sequence ++ after) s₁ := by
        rw [← hn]
        rfl
      rw [hu] at hf
      dsimp only at hf
      rw [renderAll_cons, hs] at hf
      dsimp only at hf
      cases hv : renderAll rest s₁ with
      | error f s₂ =>
          rw [hv] at hf
          cases hf
      | ok v s₂ =>
          rw [hv] at hf
          obtain ⟨rfl, -⟩ := EStateM.Result.ok.inj hf
          exact ⟨u, v, s₁, s₂, rfl, hv, rfl⟩

end Layout

/-! ## Log calls -/

/-- A log call: the logger on which it is made, by the order in which loggers were asked for, the event
    that is built, environment and registry when its delivery starts, and the session after the call. -/
structure Dispatch where
  handle : Nat
  event : Event
  office : Office
  after : Session

/-- An appender, by its tag and its place among the appenders of that tag. -/
structure Place where
  tag : Key
  index : Nat

namespace Dispatch

/-- The appenders that the event is delivered to. -/
def audience (d : Dispatch) : List Appender :=
  d.office.registry.audience d.event.logger

/-- What the appenders write of the event. -/
def written (d : Dispatch) : List (Option Text) :=
  Appender.written d.audience ⟨d.office.env, d.event⟩

/-- What the appender at a place writes of the event, if it gets there. -/
def writtenAt? (d : Dispatch) (place : Place) : Option Text :=
  if d.office.registry.route d.event.logger = place.tag then d.written[place.index]?.join else none

/-- What is written is all that shows up of an event: the consoles add their lines to one of the streams,
    in order, appenders that keep what they render keep what they write, and each text that is written
    shows the event with its number. -/
structure ShowsUp (d : Dispatch) : Prop where
  streams : Scene.Writes ⟨d.office.env, d.event⟩ (List.zipWith Appender.line d.audience d.written).flatten
    ⟨d.after.env, d.event⟩
  kept : ∀ (i : Nat) (a : Appender) (all : Bool), d.audience[i]? = some a →
    a.cls.delivery = .keep all →
      ∃ a', (d.after.registry.audience d.event.logger)[i]? = some a'
        ∧ a'.messages = a.messages ++ (d.written[i]?.join).toList
  shown : ∀ place t, d.writtenAt? place = some t →
    ∃ a, d.audience[place.index]? = some a ∧ Layout.ShowsNumber a.layout d.event t

/-- Whether the delivery is one with prepared layouts that leaves what is found after the call. -/
structure IsPrepared (d : Dispatch) : Prop where
  ready : d.office.Ready
  delivered : d.after.office = finalState (Registry.deliver d.event d.office)

theorem IsPrepared.showsUp {d : Dispatch} (h : d.IsPrepared) : d.ShowsUp := by
  have hd := h.delivered
  rw [Registry.deliver_eq, finalState_ended] at hd
  have henv : d.after.env = (Appender.appendAll d.audience ⟨d.office.env, d.event⟩).2.2.env :=
    congrArg Office.env hd
  have hregistry : d.after.registry = d.office.registry.afterDelivery d.event.logger
      (Appender.appendAll d.audience ⟨d.office.env, d.event⟩).1 := congrArg Office.registry hd
  refine ⟨?_, fun i a all ha hc => ?_, fun place t ht => ?_⟩
  · have hw := Appender.writes_appendAll d.audience ⟨d.office.env, d.event⟩
    rw [henv]
    exact ⟨hw.output, hw.errors, rfl⟩
  · rw [hregistry, Registry.audience_afterDelivery]
    · exact Appender.messages_appendAll d.audience _ i ha hc
    · intro hnone
      rw [audience, hnone]
      rfl
  · rw [writtenAt?] at ht
    split at ht
    · have hprepared : ∀ a ∈ d.audience, d.office.env.cache.has a.layout = true := fun a ha =>
        h.ready.prepared a.layout (Registry.layout_mem_of_mem_audience ha)
      obtain ⟨a, s₁, s₂, ha, hf, hc, he⟩ :=
        Appender.exists_format_of_written hprepared (Option.join_eq_some_iff.1 ht)
      exact ⟨a, ha, Layout.showsNumber_of_format hf (hc ▸ h.ready.sound) he⟩
    · cases ht

end Dispatch

namespace Session

/-- The number that the next event of a logger gets; a logger that was not asked for yet starts with
    one. -/
def nextNumber (s : Session) (handle : Nat) : Nat :=
  (s.loggers[handle]?.map Logger.next).getD 1

/-- The log call that an operation is, if it is one on a logger that was asked for. -/
def dispatch? (s : Session) : Operation → Option Dispatch
  | .log handle call level message args =>
      s.loggers[handle]?.map fun l =>
        let (e, notices, _) := l.log call level message args
        ⟨handle, e, ⟨{ s.env with notices := s.env.notices ++ notices }, s.registry⟩,
          s.after (.log handle call level message args)⟩
  | _ => none

/-- The log calls of a history, in order. -/
def dispatches (s : Session) : List Operation → List Dispatch
  | [] => []
  | op :: ops => (s.dispatch? op).toList ++ (s.after op).dispatches ops

/-- The log calls of a history on one logger. -/
def callsOn (s : Session) (handle : Nat) (ops : List Operation) : List Dispatch :=
  (s.dispatches ops).filter (·.handle = handle)

/-! ## One operation -/

theorem loggers_after_log (s : Session) {handle : Nat} {l : Logger} (hl : s.loggers[handle]? = some l)
    (call : Call) (level : Int) (message : Value) (args : List Value) :
    (s.after (.log handle call level message args)).loggers
      = s.loggers.set handle { l with next := l.next + 1 } := by
  rw [after_eq_finalState, perform_log s hl]
  cases Registry.deliver (l.log call level message args).1
    ⟨{ s.env with notices := s.env.notices ++ (l.log call level message args).2.1 },
      s.registry⟩ <;> rfl

/-- A number is taken by each call of the logger, and by nothing else. -/
theorem nextNumber_after (s : Session) (op : Operation) (handle : Nat) :
    (s.after op).nextNumber handle
      = s.nextNumber handle + if (s.dispatch? op).any (·.handle = handle) then 1 else 0 := by
  have hkept : ∀ {s' : Session}, s'.loggers = s.loggers →
      s'.nextNumber handle = s.nextNumber handle := fun h => by
    rw [nextNumber, nextNumber, h]
  have hoffice : ∀ x : EStateM Fault Office Unit,
      (finalState (inOffice x s)).loggers = s.loggers := fun x => by
    rw [finalState_inOffice]
    rfl
  cases op with
  | getLogger context stack ticks =>
      -- the new logger starts with the number that its handle had in store
      show (s.after _).nextNumber handle = s.nextNumber handle
      rw [nextNumber, loggers_after_getLogger, nextNumber, List.getElem?_append]
      split
      · rfl
      · rename_i hlt
        rw [List.getElem?_eq_none (Nat.le_of_not_lt hlt)]
        cases handle - s.loggers.length <;> rfl
  | log other call level message args =>
      cases hl : s.loggers[other]? with
      | none =>
          rw [s.after_log_of_unknown hl, dispatch?, hl]
          rfl
      | some l =>
          rw [nextNumber, s.loggers_after_log hl, dispatch?, hl, nextNumber]
          by_cases h : other = handle
          · subst h
            rw [List.getElem?_set_self (List.getElem?_eq_some_iff.1 hl).1, hl]
            simp
          · simp [List.getElem?_set_ne h, h]
  | configure c => exact hkept (s.loggers_after_configure c)
  | misconfigure =>
      rw [after_eq_finalState]
      exact hkept (hoffice Registry.misconfigure)
  | addAppender candidate =>
      rw [after_eq_finalState]
      exact hkept (hoffice (Registry.addAppender candidate))
  | setLogLevel level tag =>
      rw [after_eq_finalState]
      exact hkept (hoffice (Registry.setLogLevel level tag))
  | install source => exact hkept rfl
  | reset => exact hkept rfl

/-- A log call takes the next number of its logger. -/
theorem sequence_of_dispatch? {s : Session} {op : Operation} {d : Dispatch}
    (h : s.dispatch? op = some d) : d.event.sequence = s.nextNumber d.handle := by
  cases op with
  | log handle call level message args =>
      obtain ⟨l, hl, rfl⟩ := Option.map_eq_some_iff.1 h
      rw [nextNumber, hl]
      exact l.sequence_log call level message args
  | _ => cases h

theorem isPrepared_of_dispatch? {s : Session} {op : Operation} {d : Dispatch}
    (hs : s.office.Ready) (h : s.dispatch? op = some d) : d.IsPrepared := by
  cases op with
  | log handle call level message args =>
      obtain ⟨l, hl, rfl⟩ := Option.map_eq_some_iff.1 h
      exact ⟨⟨hs.prepared, hs.sound⟩, s.office_after_log hl call level message args⟩
  | _ => cases h

/-! ## Histories -/

theorem isPrepared_of_mem_dispatches {s : Session} {ops : List Operation} (hs : s.office.Ready)
    {d : Dispatch} (hd : d ∈ s.dispatches ops) : d.IsPrepared := by
  induction ops generalizing s with
  | nil => cases hd
  | cons op ops ih =>
      rcases List.mem_append.1 hd with h | h
      · exact isPrepared_of_dispatch? hs (Option.mem_toList.1 h)
      · exact ih (s.ready_after op hs) h

/-- The calls of a logger are numbered one after the other. -/
theorem sequence_of_callsOn {s : Session} {ops : List Operation} {handle k : Nat} {d : Dispatch}
    (hd : (s.callsOn handle ops)[k]? = some d) :
    d.event.sequence = s.nextNumber handle + k := by
  induction ops generalizing s k with
  | nil => cases hd
  | cons op ops ih =>
      have hnext := s.nextNumber_after op handle
      have hcons : s.callsOn handle (op :: ops)
          = (s.dispatch? op).toList.filter (·.handle = handle) ++ (s.after op).callsOn handle ops :=
        List.filter_append ..
      rw [hcons] at hd
      cases hop : s.dispatch? op with
      | none =>
          rw [hop] at hd hnext
          rw [ih hd, hnext]
          simp
      | some c =>
          rw [hop] at hd hnext
          by_cases hc : c.handle = handle
          · have hfilter : (some c).toList.filter (·.handle = handle) = [c] := by simp [hc]
            rw [hfilter] at hd
            cases k with
            | zero =>
                obtain rfl := Option.some.inj hd
                rw [sequence_of_dispatch? hop, hc]
                simp
            | succ k =>
                rw [ih hd, hnext, if_pos (by simp [hc])]
                push_cast
                omega
          · have hfilter : (some c).toList.filter (·.handle = handle) = [] := by simp [hc]
            rw [hfilter] at hd
            rw [ih hd, hnext, if_neg (by simp [hc])]
            simp

/-- The log calls on a logger in a history, whatever else is done in between, and what the appender at a
    place writes of them, each text with the number of its event:

    1. The event of each call has the number of the call among those of the logger, counted from one.
    2. The numbers that the appender writes for the logger increase strictly.
    3. The appender writes a number and a text just if it writes that text for the call with that number;
       so a number is missing just if it does not write that call.
    4. What is written is what ends up in the streams and with the appenders, however the call ends, and
       it shows its number in every place that the layout has for it. -/
theorem numbers_under_interleaving (zone : LocalZone) (ops : List Operation) (handle : Nat)
    (place : Place) :
    let calls := (initial zone).callsOn handle ops
    let lines := calls.filterMap fun d => (d.writtenAt? place).map (d.event.sequence, ·)
    (∀ (k : Nat) (d : Dispatch), calls[k]? = some d → d.event.sequence = k + 1)
      ∧ (lines.map (·.1)).Pairwise (· < ·)
      ∧ (∀ (number : Int) (t : Text), (number, t) ∈ lines
          ↔ ∃ (k : Nat) (d : Dispatch), calls[k]? = some d ∧ number = k + 1
              ∧ d.writtenAt? place = some t)
      ∧ ∀ d ∈ calls, d.ShowsUp := by
  intro calls lines
  have hnumber : ∀ (k : Nat) (d : Dispatch), calls[k]? = some d → d.event.sequence = k + 1 := by
    intro k d hd
    have h := sequence_of_callsOn hd
    have hstart : (initial zone).nextNumber handle = 1 := rfl
    omega
  have hincreasing : calls.Pairwise fun c d => c.event.sequence < d.event.sequence := by
    rw [List.pairwise_iff_getElem]
    intro i j hi hj hij
    have hci := hnumber i _ (List.getElem?_eq_getElem hi)
    have hcj := hnumber j _ (List.getElem?_eq_getElem hj)
    omega
  refine ⟨hnumber, ?_, fun number t => ?_, fun d hd => ?_⟩
  · rw [List.pairwise_map]
    refine hincreasing.filterMap _ fun c d hcd p hp q hq => ?_
    obtain ⟨t, -, rfl⟩ := Option.map_eq_some_iff.1 hp
    obtain ⟨u, -, rfl⟩ := Option.map_eq_some_iff.1 hq
    exact hcd
  · constructor
    · intro h
      obtain ⟨d, hd, ht⟩ := List.mem_filterMap.1 h
      obtain ⟨u, hu, hp⟩ := Option.map_eq_some_iff.1 ht
      obtain ⟨rfl, rfl⟩ := Prod.mk.inj hp
      obtain ⟨k, hk⟩ := List.getElem?_of_mem hd
      exact ⟨k, d, hk, hnumber k d hk, hu⟩
    · rintro ⟨k, d, hd, rfl, ht⟩
      refine List.mem_filterMap.2 ⟨d, List.mem_of_getElem? hd, ?_⟩
      rw [ht, hnumber k d hd]
      rfl
  · have hmem : d ∈ (initial zone).dispatches ops := (List.mem_filter.1 hd).1
    exact (isPrepared_of_mem_dispatches (ready_initial zone) hmem).showsUp

/-- Of four calls on the first logger the console writes the first and the last one: the second is not
    severe enough, and the third ends with an exception of an appender before it gets to the console. The
    calls on the other logger have numbers of their own. -/
theorem numbers_of_two_loggers :
    let guard : AppenderClass :=
      ⟨"Guard", some "guard", fun _ => true, .custom (fun _ _ => false) fun e _ kept =>
        if e.message = "three" then .error (.simple "RuntimeError" "refused") else .ok kept⟩
    let config : Config :=
      { Config.empty with
        appenders := some (.list [.cls guard, .cls Appender.consoleClass])
        loggers := some (.list [.map [(Config.levelKey, .int 400), (Config.layoutKey, .str "%sn %m")]]) }
    let log (handle : Nat) (level : Int) (message : Text) : Operation :=
      .log handle ⟨.millis 0, 0, []⟩ level (.str message) []
    let ops : List Operation :=
      [.configure config, .getLogger (.named "first") false 0, .getLogger (.named "second") false 0,
        log 0 400 "one", log 1 400 "other", log 0 500 "two", log 0 400 "three", log 1 400 "another",
        log 0 400 "four"]
    let calls := (initial .universal).callsOn 0 ops
    let lines := calls.filterMap fun d =>
      (d.writtenAt? ⟨.str "main", 1⟩).map (d.event.sequence, ·)
    calls.length = 4 ∧ lines = [((1 : Int), ("1 one" : Text)), ((4 : Int), ("4 four" : Text))]
      ∧ (lines.map (·.1)).Pairwise (· < ·)
      ∧ ((3 : Int), ("3 three" : Text)) ∉ lines
      ∧ ∀ d ∈ calls, d.ShowsUp := by
  intro guard config log ops calls lines
  obtain ⟨-, hincreasing, -, hshows⟩ := numbers_under_interleaving .universal ops 0 ⟨.str "main", 1⟩
  have hlines : lines = [((1 : Int), ("1 one" : Text)), ((4 : Int), ("4 four" : Text))] := by
    decide +kernel
  refine ⟨by decide +kernel, hlines, hincreasing, ?_, hshows⟩
  rw [hlines]
  decide

end Session
end EventLog

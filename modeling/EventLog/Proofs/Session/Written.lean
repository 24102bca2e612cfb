import EventLog.Proofs.Session.PreparedLayouts

set_option autoImplicit false

/-! # What appenders write

An appender writes an event if it renders it by its layout and the delivery ends without a fault. What it
writes is its rendering: a console adds it to a stream, with a line end, and any other appender makes of it
what its class says (`Delivers`). `written` follows a delivery to all appenders of a list up to the first
fault and says for each of them what it writes. Nothing else gets into the streams or is kept by appenders
that keep what they render, however the delivery ends (`writes_appendAll`, `messages_appendAll`). -/

namespace EventLog

/-! ## Scenes in which something was written -/

namespace Scene

/-- Whether this text was written to the stream for the level of the event from one scene to another, and
    nothing of the event changed but its place. -/
structure Writes (s : Scene) (t : Text) (s' : Scene) : Prop where
  output : s'.env.output = s.env.output ++ if Level.IsSevere s.event.level then [] else t
  errors : s'.env.errors = s.env.errors ++ if Level.IsSevere s.event.level then t else []
  event : s'.event.unplaced = s.event.unplaced

theorem Quiet.writes {s s' : Scene} (h : s.Quiet s') : s.Writes [] s' :=
  ⟨by simp [h.output], by simp [h.errors], h.event⟩

theorem Writes.trans {s s' s'' : Scene} {t u : Text} (h : s.Writes t s') (h' : s'.Writes u s'') :
    s.Writes (t ++ u) s'' := by
  have hl : s'.event.level = s.event.level := Event.level_of_unplaced h.event
  refine ⟨?_, ?_, h'.event.trans h.event⟩
  · rw [h'.output, h.output, hl]
    split <;> simp
  · rw [h'.errors, h.errors, hl]
    split <;> simp

theorem writes_writeLine (s : Scene) (t : Text) :
    s.Writes (t ++ ['\n']) { s with env := Appender.writeLine s.env s.event.level t } := by
  rw [Appender.writeLine_eq]
  exact ⟨rfl, rfl, rfl⟩

end Scene

namespace Appender

/-! ## One appender -/

/-- Whether the appender renders an event. -/
def renders (a : Appender) (e : Event) : Bool :=
  match a.cls.delivery with
  | .console => a.passes e
  | .custom renders _ => renders a.level e

/-- What the appender writes of the event of the scene: its rendering, if there is one and the delivery
    ends without a fault. -/
def written? (a : Appender) (s : Scene) : Option Text :=
  match a.append s, a.formatIf (a.renders s.event) s with
  | .ok .., .ok shown _ => shown
  | _, _ => none

/-- What a delivery without a fault does, from the rendering and the scene after it. -/
def Delivers (a : Appender) (level : Int) (shown : Option Text) (s : Scene) (a' : Appender)
    (s' : Scene) : Prop :=
  match a.cls.delivery with
  | .console =>
      a' = a ∧ s' = { s with env := shown.elim s.env (writeLine s.env level) }
  | .custom _ keep =>
      ∃ messages, keep s.event shown a.messages = .ok messages
        ∧ a' = { a with messages := messages } ∧ s' = s

/-- A delivery renders the event, if the appender renders it, and ends with the fault of the rendering or
    goes on with what is shown. -/
theorem append_eq (a : Appender) (s : Scene) :
    match a.formatIf (a.renders s.event) s with
    | .error f s₁ => a.append s = .error f s₁
    | .ok shown s₁ =>
        (∃ x, a.append s = .error (.raised x) s₁)
          ∨ ∃ a' s', a.append s = .ok a' s' ∧ a.Delivers s.event.level shown s₁ a' s' := by
  cases hc : a.cls.delivery with
  | console =>
      rw [append_console a s hc, renders, hc, formatIf]
      dsimp only
      by_cases hp : a.passes s.event = true
      · rw [if_pos hp, if_pos hp, map_eq_pure_bind, bind_apply]
        cases a.format s with
        | error f s₁ => rfl
        | ok t s₁ =>
            refine .inr ⟨a, _, rfl, ?_⟩
            rw [Delivers, hc]
            exact ⟨rfl, rfl⟩
      · rw [if_neg hp, if_neg hp]
        refine .inr ⟨a, s, rfl, ?_⟩
        rw [Delivers, hc]
        exact ⟨rfl, rfl⟩
  | custom renders keep =>
      have hr : a.renders s.event = renders a.level s.event := by rw [Appender.renders, hc]
      rw [append_custom a s hc, hr]
      cases a.formatIf (renders a.level s.event) s with
      | error f s₁ => rfl
      | ok shown s₁ =>
          dsimp only
          cases hk : keep s₁.event shown a.messages with
          | error x => exact .inl ⟨x, rfl⟩
          | ok messages =>
              refine .inr ⟨{ a with messages := messages }, s₁, rfl, ?_⟩
              rw [Delivers, hc]
              exact ⟨messages, hk, rfl, rfl⟩

/-- A delivery without a fault does with the text that is written what the class says. -/
theorem delivers_of_append {a a' : Appender} {s s' : Scene} (h : a.append s = .ok a' s') :
    ∃ s₁, a.formatIf (a.renders s.event) s = .ok (a.written? s) s₁
      ∧ a.Delivers s.event.level (a.written? s) s₁ a' s' := by
  have ha := a.append_eq s
  rw [h] at ha
  cases hf : a.formatIf (a.renders s.event) s with
  | error f s₁ =>
      rw [hf] at ha
      cases ha
  | ok shown s₁ =>
      have hw : a.written? s = shown := by rw [written?, h, hf]
      rw [hf] at ha
      rcases ha with ⟨x, hx⟩ | ⟨b, s₂, hb, hd⟩
      · cases hx
      · obtain ⟨rfl, rfl⟩ := EStateM.Result.ok.inj hb
        rw [hw]
        exact ⟨s₁, rfl, hd⟩

theorem written?_of_error {a : Appender} {s s' : Scene} {f : Fault} (h : a.append s = .error f s') :
    a.written? s = none := by
  rw [written?, h]

/-- Whatever is written is the event as the layout of the appender shows it. -/
theorem format_of_written? {a : Appender} {s : Scene} {t : Text} (h : a.written? s = some t) :
    ∃ s₁, Layout.format a.layout s = .ok t s₁ := by
  cases ha : a.append s with
  | error f s' =>
      rw [written?_of_error ha] at h
      cases h
  | ok a' s' =>
      obtain ⟨s₁, hf, -⟩ := delivers_of_append ha
      rw [h] at hf
      unfold formatIf at hf
      split at hf
      · rw [map_eq_pure_bind, bind_apply, format] at hf
        cases hl : Layout.format a.layout s with
        | error f s₂ =>
            rw [hl] at hf
            cases hf
        | ok u s₂ =>
            rw [hl] at hf
            obtain ⟨hu, -⟩ := EStateM.Result.ok.inj hf
            exact ⟨s₂, by rw [Option.some.inj hu]⟩
      · cases hf

/-- What a text that is written adds to a stream: a line if the appender is a console. -/
def line (a : Appender) (shown : Option Text) : Text :=
  match a.cls.delivery with
  | .console => shown.elim [] (· ++ ['\n'])
  | .custom .. => []

@[simp] theorem line_none (a : Appender) : a.line none = [] := by
  rw [line]
  cases a.cls.delivery <;> rfl

/-- A delivery adds to a stream what is written, and nothing if it ends with a fault. -/
theorem writes_append (a : Appender) (s : Scene) :
    s.Writes (a.line (a.written? s)) (finalState (a.append s)) := by
  have hq := quiet_formatIf a (a.renders s.event) s
  cases ha : a.append s with
  | error f s' =>
      -- the fault is that of the rendering, or is raised after it
      have hs : finalState (a.formatIf (a.renders s.event) s) = s' := by
        have hap := a.append_eq s
        rw [ha] at hap
        cases hf : a.formatIf (a.renders s.event) s with
        | error g s₁ =>
            rw [hf] at hap
            exact (EStateM.Result.error.inj hap).2.symm
        | ok shown s₁ =>
            rw [hf] at hap
            rcases hap with ⟨x, hx⟩ | ⟨b, s₂, hb, -⟩
            · exact (EStateM.Result.error.inj hx).2.symm
            · cases hb
      rw [written?_of_error ha, line_none]
      exact Scene.Quiet.writes (hs ▸ hq)
  | ok a' s' =>
      obtain ⟨s₁, hf, hd⟩ := delivers_of_append ha
      rw [hf] at hq
      have hq : s.Quiet s₁ := hq
      show s.Writes (a.line (a.written? s)) s'
      unfold Delivers at hd
      unfold line
      cases hc : a.cls.delivery with
      | console =>
          rw [hc] at hd
          obtain ⟨-, rfl⟩ := hd
          cases a.written? s with
          | none => exact hq.writes
          | some t =>
              have hl : s₁.event.level = s.event.level := Event.level_of_unplaced hq.event
              rw [← hl]
              exact hq.writes.trans (s₁.writes_writeLine t)
      | custom renders keep =>
          rw [hc] at hd
          obtain ⟨messages, -, -, rfl⟩ := hd
          exact hq.writes

/-- An appender that keeps what it renders keeps what it writes. -/
theorem messages_of_append {a a' : Appender} {s s' : Scene} {all : Bool}
    (hc : a.cls.delivery = .keep all) (h : a.append s = .ok a' s') :
    a'.messages = a.messages ++ (a.written? s).toList := by
  obtain ⟨s₁, -, hd⟩ := delivers_of_append h
  rw [Delivers, hc] at hd
  obtain ⟨messages, hk, rfl, -⟩ := hd
  exact (Except.ok.inj hk).symm

/-! ## All appenders of a list -/

/-- What each appender of a list writes if the event of the scene is delivered to them. The list ends
    where the delivery ends with a fault. -/
def written : List Appender → Scene → List (Option Text)
  | [], _ => []
  | a :: rest, s =>
      if a.cls.isActive (some s.event.level) then
        match a.append s with
        | .ok _ s' => a.written? s :: written rest s'
        | .error .. => []
      else none :: written rest s

/-- A delivery to all appenders of a list adds to a stream what the consoles among them write, in the
    order of the list. -/
theorem writes_appendAll (as : List Appender) (s : Scene) :
    s.Writes (List.zipWith line as (written as s)).flatten (appendAll as s).2.2 := by
  induction as generalizing s with
  | nil => exact Scene.Quiet.writes ⟨rfl, rfl, rfl⟩
  | cons a rest ih =>
      rw [appendAll, written]
      split
      · have hstep := a.writes_append s
        cases ha : a.append s with
        | error f s' =>
            rw [ha, written?_of_error ha, line_none] at hstep
            exact hstep
        | ok a' s' =>
            rw [ha] at hstep
            exact hstep.trans (ih s')
      · dsimp only
        rw [List.zipWith_cons_cons, List.flatten_cons, line_none, List.nil_append]
        exact ih s

/-- An appender of the list that keeps what it renders keeps what it writes, and nothing else, wherever
    the delivery ends. -/
theorem messages_appendAll (as : List Appender) (s : Scene) (i : Nat) {a : Appender} {all : Bool}
    (ha : as[i]? = some a) (hc : a.cls.delivery = .keep all) :
    ∃ a', (appendAll as s).1[i]? = some a'
      ∧ a'.messages = a.messages ++ ((written as s)[i]?.join).toList := by
  induction as generalizing s i with
  | nil => cases ha
  | cons b rest ih =>
      rw [appendAll, written]
      split
      · cases hb : b.append s with
        | error f s' => exact ⟨a, ha, by simp⟩
        | ok b' s' =>
            cases i with
            | zero =>
                obtain rfl := Option.some.inj ha
                exact ⟨b', rfl, messages_of_append hc hb⟩
            | succ i => exact ih s' i ha
      · cases i with
        | zero => exact ⟨a, ha, by simp⟩
        | succ i => exact ih s i ha

/-- Whatever is written is the event as the layout of the appender shows it, in a scene in which the same
    layouts are kept, if all that the appenders need are kept. -/
theorem exists_format_of_written {as : List Appender} {s : Scene}
    (h : ∀ a ∈ as, s.env.cache.has a.layout = true) {i : Nat} {t : Text}
    (ht : (written as s)[i]? = some (some t)) :
    ∃ a s₁ s₂, as[i]? = some a ∧ Layout.format a.layout s₁ = .ok t s₂
      ∧ s₁.env.cache = s.env.cache ∧ s₁.event.unplaced = s.event.unplaced := by
  induction as generalizing s i with
  | nil => cases ht
  | cons a rest ih =>
      have hrest : ∀ b ∈ rest, s.env.cache.has b.layout = true :=
        fun b hb => h b (List.mem_cons_of_mem _ hb)
      rw [written] at ht
      split at ht
      · have hcache := (compilesNothing_append a s (h a (by simp))).cache
        have hevent := (a.writes_append s).event
        cases ha : a.append s with
        | error f s' =>
            rw [ha] at ht
            cases ht
        | ok a' s' =>
            rw [ha] at ht hcache hevent
            have hcache : s'.env.cache = s.env.cache := hcache
            cases i with
            | zero =>
                obtain ⟨s₁, hf⟩ := format_of_written? (Option.some.inj ht)
                exact ⟨a, s, s₁, rfl, hf, rfl, rfl⟩
            | succ i =>
                obtain ⟨b, s₁, s₂, hb, hf, hc, he⟩ :=
                  ih (s := s') (fun b hb => hcache ▸ hrest b hb) ht
                exact ⟨b, s₁, s₂, hb, hf, hc.trans hcache, he.trans hevent⟩
      · cases i with
        | zero => cases ht
        | succ i =>
            obtain ⟨b, s₁, s₂, hb, hf, hc, he⟩ := ih hrest ht
            exact ⟨b, s₁, s₂, hb, hf, hc, he⟩

end Appender
end EventLog

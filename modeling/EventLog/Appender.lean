import EventLog.Rendering

set_option autoImplicit false

/-! # Appenders

An appender is where events end up. Its class says under which name it is registered, whether it is
active, and how it delivers an event: to the console, if the event is severe enough, or in any other
way that only touches what the appender itself keeps. Level and layout belong to the appender and are
not changed by a delivery. The console writes one line for an event, and the events of the three most
severe levels go to the stream for errors. -/

namespace EventLog

/-- How an appender delivers an event. -/
inductive Delivery where
  /-- The rendered event is written to the console, if it passes the threshold. -/
  | console
  /-- Any other way. `renders` tells from the threshold whether the event is rendered, and `keep` what
      is kept afterwards, from the event, its rendering and what was kept before; it may raise an
      exception. -/
  | custom (renders : Int → Event → Bool)
      (keep : Event → Option Text → List Text → Except Exception (List Text))

namespace Delivery

/-- The rendered event is kept, if it passes the threshold or there is none (`all`). -/
def keep (all : Bool) : Delivery :=
  .custom (fun level e => all || e.level ≤ level) fun _ shown kept => .ok (kept ++ shown.toList)

/-- The same text is kept for every event, which is not rendered. -/
def note (t : Text) : Delivery :=
  .custom (fun _ _ => false) fun _ _ kept => .ok (kept ++ [t])

end Delivery

/-- A class of appenders. It says what its contract leaves to it: name, activity and delivery. Level and
    layout are set by the base of all classes, in the same way for each of them. -/
structure AppenderClass where
  className : Text
  /-- The name under which the class is registered; without one it cannot be. -/
  name : Option Text
  isActive : Option Int → Bool
  delivery : Delivery

/-- An appender of a class. -/
structure Appender where
  cls : AppenderClass
  level : Int
  layout : Text
  messages : List Text

namespace Appender

/-- The layout of an appender that was given none. -/
def defaultLayout : Text := "%d [%p] %c - %m"

/-- The class of the appenders that write to the console. -/
def consoleClass : AppenderClass where
  className := "ConsoleAppender"
  name := some "console"
  isActive := fun _ => true
  delivery := .console

/-- An appender of a class with this level and layout. -/
def ofClass (c : AppenderClass) (level : Int) (layout : Text) : Appender :=
  ⟨c, level, layout, []⟩

/-- The level of an appender that was given none. -/
def defaultLevel : Int := Level.info

/-- The appender with another layout, which is compiled unless it is kept, so that the first event
    does not have to wait for it. -/
def setLayout (a : Appender) (layout : Text) (env : Environment) : Appender × Environment :=
  ({ a with layout := layout }, (env.fetch layout).2)

/-- The levels whose events are written to the stream for errors. -/
def errorLevels : List Int :=
  [Level.fatal, Level.error, Level.warn]

/-- The environment after a line was written to the console. -/
def writeLine (env : Environment) (level : Int) (t : Text) : Environment :=
  if errorLevels.contains level then { env with errors := env.errors ++ t ++ ['\n'] }
  else { env with output := env.output ++ t ++ ['\n'] }

/-- Whether an event passes the threshold of the appender. -/
def passes (a : Appender) (e : Event) : Bool :=
  e.level ≤ a.level

/-- The event rendered through the layout of the appender. -/
def format (a : Appender) : EStateM Fault Scene Text :=
  Layout.format a.layout

/-- The event rendered through the layout of the appender, if that is wanted. -/
def formatIf (a : Appender) (wanted : Bool) : EStateM Fault Scene (Option Text) :=
  if wanted then some <$> a.format else pure none

/-- Delivers the event of the scene; the result is the appender afterwards. -/
def append (a : Appender) : EStateM Fault Scene Appender := do
  let e := (← get).event
  match a.cls.delivery with
  | .console =>
      if a.passes e then
        let t ← a.format
        modify fun s => { s with env := writeLine s.env e.level t }
      pure a
  | .custom renders keep =>
      let shown ← a.formatIf (renders a.level e)
      match keep (← get).event shown a.messages with
      | .ok messages => pure { a with messages := messages }
      | .error x => throw (.raised x)

/-- Delivers the event to those of the appenders that are active, in order, until one of them
    ends with a fault. The appenders afterwards are given also in that case. -/
def appendAll : List Appender → Scene → List Appender × Option Fault × Scene
  | [], s => ([], none, s)
  | a :: rest, s =>
      if a.cls.isActive (some s.event.level) then
        match a.append s with
        | .ok a' s' =>
            let (rest', fault, s'') := appendAll rest s'
            (a' :: rest', fault, s'')
        | .error f s' => (a :: rest, some f, s')
      else
        let (rest', fault, s') := appendAll rest s
        (a :: rest', fault, s')

/-! ## The two ways of delivering -/

/-- A console appender writes the event if it passes the threshold, and does nothing otherwise. -/
theorem append_console (a : Appender) (s : Scene) (hc : a.cls.delivery = .console) :
    a.append s
      = if a.passes s.event then
          match a.format s with
          | .ok t s' => .ok a { s' with env := writeLine s'.env s.event.level t }
          | .error f s' => .error f s'
        else .ok a s := by
  simp only [append, hc]
  change (if a.passes s.event = true then _ else pure a : EStateM Fault Scene Appender) s = _
  by_cases h : a.passes s.event = true
  · rw [if_pos h, if_pos h]
    simp only [bind, EStateM.bind]
    cases a.format s <;> rfl
  · rw [if_neg h, if_neg h]
    rfl

/-- Any other appender keeps what its class says. -/
theorem append_custom (a : Appender) (s : Scene) {renders : Int → Event → Bool}
    {keep : Event → Option Text → List Text → Except Exception (List Text)}
    (hc : a.cls.delivery = .custom renders keep) :
    a.append s
      = match a.formatIf (renders a.level s.event) s with
        | .ok shown s' =>
            match keep s'.event shown a.messages with
            | .ok messages => .ok { a with messages := messages } s'
            | .error x => .error (.raised x) s'
        | .error f s' => .error f s' := by
  have hg : ∀ s : Scene, (get : EStateM Fault Scene Scene) s = .ok s s := fun _ => rfl
  simp only [append, hc, bind, EStateM.bind, hg]
  cases a.formatIf (renders a.level s.event) s with
  | error f s' => rfl
  | ok shown s' =>
      dsimp only
      cases keep s'.event shown a.messages <;> rfl

/-! ## What a delivery leaves alone -/

/-- The appender without what it kept: its class, its level and its layout. -/
def bare (a : Appender) : Appender :=
  { a with messages := [] }

/-- A delivery changes nothing but what the appender keeps. -/
theorem bare_of_append (a a' : Appender) (s s' : Scene) (h : a.append s = .ok a' s') :
    a'.bare = a.bare := by
  cases hc : a.cls.delivery with
  | console =>
      rw [append_console a s hc] at h
      split at h
      · cases hf : a.format s with
        | ok t s₁ =>
            rw [hf] at h
            obtain ⟨rfl, -⟩ := EStateM.Result.ok.inj h
            rfl
        | error f s₁ => simp [hf] at h
      · obtain ⟨rfl, -⟩ := EStateM.Result.ok.inj h
        rfl
  | custom renders keep =>
      rw [append_custom a s hc] at h
      cases hf : a.formatIf (renders a.level s.event) s with
      | error f s₁ => simp [hf] at h
      | ok shown s₁ =>
          rw [hf] at h
          cases hk : keep s₁.event shown a.messages with
          | error x => simp [hk] at h
          | ok messages =>
              simp only [hk] at h
              obtain ⟨rfl, -⟩ := EStateM.Result.ok.inj h
              rfl

/-- The appenders are the same after a delivery, apart from what they keep. -/
theorem map_bare_appendAll (as : List Appender) (s : Scene) :
    (appendAll as s).1.map bare = as.map bare := by
  induction as generalizing s with
  | nil => rfl
  | cons a rest ih =>
      rw [appendAll]
      split
      · cases h : a.append s with
        | ok a' s' => simp [bare_of_append a a' s s' h, ih]
        | error f s' => rfl
      · simp [ih]

end Appender
end EventLog

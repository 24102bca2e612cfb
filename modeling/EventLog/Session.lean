import EventLog.Logger
import EventLog.Registry

set_option autoImplicit false

/-! # Sessions

A session holds everything that lives as long as the program that logs: the environment, the registry
and the loggers that were handed out. Loggers are known by the order in which they were asked for, and
stay in use when the registry is reset. `Operation` lists what can be asked of a session, so that a
history is a list of operations and `run` gives the session after it. -/

namespace EventLog

/-- What a logger is asked for with, from which it takes its name. -/
inductive LoggerContext where
  | missing
  | named (name : Text)
  | callable (c : Callable)
  /-- A thing that cannot be called, by the name of its class. -/
  | thing (className : Text)

namespace LoggerContext

/-- The class of things of which nothing else is known. -/
def plainClass : Text := "object"

/-- The name that a logger takes from what it is asked for with. -/
def loggerName : LoggerContext → Text
  | missing => Registry.mainLogger
  | named name => name
  | callable c => c.name
  | thing className =>
      let name := Callable.name ⟨true, some className, none⟩
      if name = plainClass then Callable.anonymous else name

end LoggerContext

/-- Everything that lives as long as the program that logs. -/
structure Session where
  env : Environment
  registry : Registry
  /-- The loggers in the order in which they were asked for. -/
  loggers : List Logger

namespace Session

/-- The session at the start. -/
def initial (zone : LocalZone) : Session :=
  ⟨.initial zone, .empty, []⟩

/-- Environment and registry of the session. -/
def office (s : Session) : Office :=
  ⟨s.env, s.registry⟩

/-- The session with another environment and registry. -/
def withOffice (s : Session) (o : Office) : Session :=
  { s with env := o.env, registry := o.registry }

/-- Does something with environment and registry. -/
def inOffice {α : Type} (x : EStateM Fault Office α) : EStateM Fault Session α := fun s =>
  match x s.office with
  | .ok a o => .ok a (s.withOffice o)
  | .error f o => .error f (s.withOffice o)

/-! ## Operations -/

/-- Something that can be asked of a session. -/
inductive Operation where
  | configure (c : Config)
  /-- Configures with something that is no mapping. -/
  | misconfigure
  | addAppender (candidate : Candidate)
  /-- Asks for a logger; `ticks` is the time. -/
  | getLogger (context : LoggerContext) (capturesStack : Bool) (ticks : Int)
  /-- A log call on the logger that was asked for after `handle` others. -/
  | log (handle : Nat) (call : Call) (level : Int) (message : Value) (args : List Value)
  | setLogLevel (level tag : Value)
  /-- Takes source locations from another provider from now on. -/
  | install (source : LocationSource)
  | reset

/-- Asks for a logger, which is made after the registry was configured. -/
def getLogger (context : LoggerContext) (capturesStack : Bool) (ticks : Int) :
    EStateM Fault Session Unit := do
  inOffice Registry.ensureConfigured
  modify fun s =>
    { s with loggers := s.loggers ++ [Logger.new context.loggerName capturesStack ticks] }

/-- Makes the event of a log call and delivers it; the call counts even if delivering ends with a
    fault. -/
def log (handle : Nat) (call : Call) (level : Int) (message : Value) (args : List Value) :
    EStateM Fault Session Unit := fun s =>
  match s.loggers[handle]? with
  | none => .ok () s
  | some l =>
      let (e, notices, l') := l.log call level message args
      let s' : Session :=
        { s with env := notices.foldl Environment.report s.env, loggers := s.loggers.set handle l' }
      inOffice (Registry.deliver e) s'

/-- Takes source locations from another provider. -/
def install (source : LocationSource) : EStateM Fault Session Unit :=
  modify fun s => { s with env := s.env.install source }

/-- Forgets all configuration, classes and appenders; loggers, kept layouts and the provider stay. -/
def reset : EStateM Fault Session Unit :=
  modify fun s => { s with registry := .empty }

/-- Does what is asked. -/
def perform : Operation → EStateM Fault Session Unit
  | .configure c => inOffice (Registry.configure c)
  | .misconfigure => inOffice Registry.misconfigure
  | .addAppender candidate => inOffice (Registry.addAppender candidate)
  | .getLogger context capturesStack ticks => getLogger context capturesStack ticks
  | .log handle call level message args => log handle call level message args
  | .setLogLevel level tag => inOffice (Registry.setLogLevel level tag)
  | .install source => install source
  | .reset => reset

/-- The session after an operation, however it ended. -/
def after (s : Session) (op : Operation) : Session :=
  match perform op s with
  | .ok _ s' => s'
  | .error _ s' => s'

/-- The session after a history. -/
def run (s : Session) (ops : List Operation) : Session :=
  ops.foldl after s

@[simp] theorem run_nil (s : Session) : s.run [] = s := rfl

@[simp] theorem run_cons (s : Session) (op : Operation) (ops : List Operation) :
    s.run (op :: ops) = (s.after op).run ops := rfl

theorem run_append (s : Session) (ops ops' : List Operation) :
    s.run (ops ++ ops') = (s.run ops).run ops' := by
  simp [run]

end Session
end EventLog

import EventLog.Event
import EventLog.Notice
import EventLog.Placeholder

set_option autoImplicit false

/-! # Loggers

A logger turns log calls into events. It has a name, the time at which it was made, and the number of
its next event; the numbers count its calls from one. Arguments that the message has no placeholder
for are attached to the event: an exception becomes its error, a mapping its properties, where a
later one replaces an earlier one, and any other argument is ignored with a notice. -/

namespace EventLog

/-- Where and when a log call is made: the date, the milliseconds of a clock that is never set, and the
    frames of the calls that are running, innermost first. -/
structure Call where
  date : Timestamp
  ticks : Int
  frames : List ActiveFrame

namespace Call

/-- The frames from the one that makes the call outwards. -/
def callers (c : Call) : List ActiveFrame :=
  ActiveFrame.callers c.frames

/-- What makes the call, as far as it can be found. -/
def method (c : Call) : Callable :=
  (c.callers.head?.bind (·.method?)).getD .nobody

/-- The call stack, outermost frame first, up to the frame that makes the call. -/
def stack (c : Call) : List Frame :=
  (c.callers.map (·.summary)).reverse

end Call

/-- A logger. -/
structure Logger where
  name : Text
  capturesStack : Bool
  /-- The ticks of the clock when the logger was made. -/
  created : Int
  /-- The number of the next event. -/
  next : Nat
deriving DecidableEq

namespace Logger

/-- A logger that was just made. -/
def new (name : Text) (capturesStack : Bool) (ticks : Int) : Logger :=
  ⟨name, capturesStack, ticks, 1⟩

/-- Ticks of the clock as seconds. -/
def secondsOfTicks (ticks : Int) : Float :=
  Float.ofInt ticks / 1000.0

/-- The whole milliseconds from one reading of the clock to another, by the difference of the two
    readings in seconds; never less than zero. -/
def elapsed (start now : Int) : Int :=
  max 0 ((Double.truncate? ((secondsOfTicks now - secondsOfTicks start) * 1000.0)).getD 0)

/-! ## Arguments without a placeholder -/

/-- The event with an argument attached to it. -/
def attach (e : Event) : Value → Event
  | .error x => { e with error := some x }
  | .map entries => { e with properties := some entries }
  | _ => e

/-- The notice about an argument that is not attached to the event. -/
def surplus? : Value → Option Notice
  | .error _ | .map _ => none
  | v => some (.surplusArgument v.kindName)

/-! ## Making events -/

/-- The event of a log call, without its arguments. -/
def bareEvent (l : Logger) (call : Call) (level : Int) (message : Text) : Event where
  date := call.date
  level := level
  logger := l.name
  message := message
  error := none
  properties := none
  method := call.method
  file := none
  line := none
  column := none
  stack := if l.capturesStack then call.stack else []
  relative := elapsed l.created call.ticks
  sequence := l.next

/-- The event of a log call, the notices about arguments that were ignored, and the logger after the
    call. -/
def log (l : Logger) (call : Call) (level : Int) (message : Value) (args : List Value) :
    Event × List Notice × Logger :=
  let (text, rest) := Placeholder.substitute message.text args
  (rest.foldl attach (l.bareEvent call level text), rest.filterMap surplus?,
    { l with next := l.next + 1 })

/-- Arguments are attached as error and as properties, and change nothing else. -/
theorem foldl_attach_eq (vs : List Value) (e : Event) :
    ∃ error properties, vs.foldl attach e = { e with error := error, properties := properties } := by
  induction vs generalizing e with
  | nil => exact ⟨e.error, e.properties, rfl⟩
  | cons v vs ih =>
      obtain ⟨error, properties, h⟩ := ih (attach e v)
      refine ⟨error, properties, ?_⟩
      rw [List.foldl_cons, h]
      cases v <;> rfl

theorem log_fst_eq (l : Logger) (call : Call) (level : Int) (message : Value) (args : List Value) :
    ∃ error properties, (l.log call level message args).1
      = { l.bareEvent call level (Placeholder.substitute message.text args).1 with
          error := error, properties := properties } :=
  foldl_attach_eq _ _

/-- An event has the number that its logger had in store. -/
theorem sequence_log (l : Logger) (call : Call) (level : Int) (message : Value)
    (args : List Value) : (l.log call level message args).1.sequence = l.next := by
  obtain ⟨error, properties, h⟩ := l.log_fst_eq call level message args
  rw [h]
  rfl

end Logger
end EventLog

import EventLog.Appender
import EventLog.Value.Mapping

set_option autoImplicit false

/-! # Configurations

A configuration says which appender classes there are, which loggers have appenders, and which layout
they use. It comes as a mapping with four known keys, none of which is required; the other entries are
kept but have no meaning. Appender classes may be given by the names of built-in ones and levels by
name: `normalize` replaces these names by what they stand for and leaves the rest alone. -/

namespace EventLog

/-- What is offered as an appender class. -/
inductive Candidate where
  | cls (c : AppenderClass)
  /-- An appender in place of its class. -/
  | instanceOf (c : AppenderClass)
  /-- A class of other things than appenders. -/
  | otherClass (name : Text)
  | value (v : Value)

/-- What a configuration says about appender classes. -/
inductive AppenderSetting where
  | list (candidates : List Candidate)
  | other (v : Value)

/-- A configuration. -/
structure Config where
  layout : Option Value
  injection : Option Value
  appenders : Option AppenderSetting
  loggers : Option Value
  others : Entries

namespace Candidate

/-- How the candidate is shown, if it can be shown. -/
def shown? : Candidate → Option Text
  | cls _ | instanceOf _ => none
  | otherClass name => some ("<class '" ++ name ++ "'>")
  | value v => some v.expression

end Candidate

namespace Config

/-! ## Keys -/

/-- The layout of loggers that have none of their own; also the layout of one logger. -/
def layoutKey : Key := .str "layout"

/-- Whether appender classes can be added after the first event. -/
def injectionKey : Key := .str "allow_appender_injection"

/-- The appender classes. -/
def appendersKey : Key := .str "appenders"

/-- The definitions of loggers. -/
def loggersKey : Key := .str "loggers"

/-- The tag of a logger. -/
def tagKey : Key := .str "tag"

/-- The level of a logger. -/
def levelKey : Key := .str "level"

/-! ## Reading a mapping -/

/-- The configuration without any setting. -/
def empty : Config := ⟨none, none, none, none, []⟩

/-- What a value says about appender classes. -/
def appenderSetting : Value → AppenderSetting
  | .list items => .list (items.map .value)
  | v => .other v

/-- The configuration that a mapping stands for. -/
def ofEntries (es : Entries) : Config where
  layout := es.get? layoutKey
  injection := es.get? injectionKey
  appenders := (es.get? appendersKey).map appenderSetting
  loggers := es.get? loggersKey
  others := (((es.drop layoutKey).drop injectionKey).drop appendersKey).drop loggersKey

/-! ## Names and what they stand for -/

/-- The appender classes that can be given by name. -/
def builtinAppenders : List (Text × AppenderClass) :=
  [("console", Appender.consoleClass)]

/-- The candidate with a name replaced by the class it stands for. -/
def resolveAppender : Candidate → Except Fault Candidate
  | .value (.str name) =>
      match builtinAppenders.lookup name with
      | some c => .ok (.cls c)
      | none => .error (.unknownAppender name)
  | c => .ok c

/-- The definition of a logger as a mapping with its level as a number. A value that counts as not
    set is a definition without entries. -/
def resolveDefinition (v : Value) : Except Fault Value := do
  let es ← (if v.isSet then v else .map []).toMapping
  match es.get? levelKey with
  | none => .ok (.map es)
  | some l =>
      match ← Level.ofValue none l with
      | some n => .ok (.map (es.put levelKey (.int n)))
      | none => .ok (.map (es.put levelKey .null))

/-- The configuration with names replaced by what they stand for. -/
def normalize (c : Config) : Except Fault Config := do
  let appenders ← match c.appenders with
    | some (.list candidates) => do
        let cs ← candidates.mapM resolveAppender
        .ok (some (AppenderSetting.list cs))
    | other => .ok other
  let loggers ← match c.loggers with
    | some (.list definitions) => do
        let ds ← definitions.mapM resolveDefinition
        .ok (some (Value.list ds))
    | other => .ok other
  .ok { c with appenders := appenders, loggers := loggers }

/-- The normalized configuration that a value stands for. -/
def ofValue (v : Value) : Except Fault Config := do
  normalize (ofEntries (← v.toMapping))

end Config
end EventLog

import EventLog.Config

set_option autoImplicit false

/-! # The registry of appenders

The registry knows the appender classes by name and, for each tag, the appenders of the loggers with
that tag. It can be configured until the first event is delivered; from then on it is frozen, and
appender classes can be added only if the configuration allows it. An event goes to the appenders of
its logger's tag, or to those of the main tag if there is no such tag.

An operation that ends with a fault leaves what it did up to there. -/

namespace EventLog

/-- The settings that the definitions of loggers fall back to. -/
structure Configuration where
  layout : Value
  injection : Value

/-- Appender classes and appenders. -/
structure Registry where
  /-- The appender classes by name. -/
  classes : Table Text AppenderClass
  /-- The settings, once the registry was configured. There are none in it if only something that is
      no mapping was given. -/
  configuration : Option (Option Configuration)
  /-- Whether an event was delivered. -/
  frozen : Bool
  /-- The appenders by tag. -/
  loggers : Table Key (List Appender)

/-- A registry in its environment, which is what configuring reads and changes. -/
structure Office where
  env : Environment
  registry : Registry

namespace Registry

/-- The registry of which nothing was asked yet. -/
def empty : Registry := ⟨[], none, false, []⟩

/-- The tag of events whose logger has no appenders of its own. -/
def mainTag : Text := "main"

/-- The name of a logger without a name. -/
def mainLogger : Text := mainTag

/-- The tag under which there are appenders that is the same key, or else the tag itself. -/
def tagFor (r : Registry) (tag : Key) : Key :=
  (r.loggers.keys.find? (·.same tag)).getD tag

/-! ## Configuring -/

/-- The settings after those of a configuration; a layout that counts as not set keeps the one
    before. -/
def settings (old : Option Configuration) (c : Config) : Configuration where
  layout :=
    if (c.layout.getD .null).isSet then c.layout.getD .null
    else match old with
      | some o => o.layout
      | none => .str Appender.defaultLayout
  injection := c.injection.getD (match old with
    | some o => o.injection
    | none => .bool true)

/-- Whether appender classes cannot be added any more. -/
def refusesClasses (r : Registry) : Bool :=
  r.frozen && match r.configuration.join with
    | some c => !c.injection.isSet
    | none => false

/-- The registry with one more class, if no other class has its name. -/
def addClass (r : Registry) (name : Text) (c : AppenderClass) : Registry :=
  if r.classes.has name then r else { r with classes := r.classes.put name c }

/-- The name under which a candidate can be registered, and its class. -/
def accept : Candidate → Except Fault (Text × AppenderClass)
  | .cls c =>
      match c.name with
      | some (x :: name) => .ok (x :: name, c)
      | _ => .error (.namelessAppender c.className)
  | other => .error (.notAnAppender other.shown?)

/-- Registers an appender class. -/
def addAppender (candidate : Candidate) : EStateM Fault Office Unit := fun o =>
  if o.registry.refusesClasses then .ok () { o with env := o.env.report .injectionRefused }
  else
    match accept candidate with
    | .ok (name, c) => .ok () { o with registry := o.registry.addClass name c }
    | .error f => .error f o

/-- Registers appender classes one after the other. -/
def addAppenders : List Candidate → EStateM Fault Office Unit
  | [] => pure ()
  | c :: rest => do
      addAppender c
      addAppenders rest

/-- The appender classes that a setting names; without a list it is the console. -/
def candidates : Option AppenderSetting → List Candidate
  | some (.list cs) => cs
  | _ => [.cls Appender.consoleClass]

/-- An appender of each class with this level and layout. The layout is compiled for each of them
    unless it is kept; something that is no text cannot be. -/
def makeAppenders (level : Int) (layout : Value) :
    List AppenderClass → EStateM Fault Environment (List Appender)
  | [] => pure []
  | c :: rest => do
      match layout with
      | .str t => do
          modify fun env => (env.fetch t).2
          let others ← makeAppenders level layout rest
          pure (Appender.ofClass c level t :: others)
      | .list _ | .map _ => throw (.layoutNotAText false)
      | _ => throw (.layoutNotAText true)

/-- The layout of a definition: its own, if it is a text and not empty. -/
def layoutOf (es : Entries) (settings : Configuration) : Value :=
  match es.get? Config.layoutKey with
  | some (.str (c :: t)) => .str (c :: t)
  | _ => settings.layout

/-- The tag of a definition; without one, or with one that counts as not set, it is the main tag. -/
def tagOf (es : Entries) : Value :=
  match es.get? Config.tagKey with
  | some v => if v.isSet then v else .str mainTag
  | none => .str mainTag

/-- Makes the appenders of one logger from its definition. -/
def define (settings : Configuration) : Value → EStateM Fault Office Unit
  | .map es => fun o =>
      match Level.ofValue (some Level.error) ((Entries.get? es Config.levelKey).getD .null) with
      | .error f => .error f o
      | .ok level =>
          match makeAppenders (level.getD Level.error) (layoutOf es settings)
              (o.registry.classes.map (·.2)) o.env with
          | .error f env => .error f { o with env := env }
          | .ok appenders env =>
              match (tagOf es).toKey? with
              | none => .error .tagNotAKey { o with env := env }
              | some tag =>
                  .ok () { env := env,
                           registry :=
                            { o.registry with
                              loggers := o.registry.loggers.put (o.registry.tagFor tag) appenders } }
  | _ => throw .definitionNotAMapping

/-- Makes the appenders of several loggers one after the other. -/
def defineAll (settings : Configuration) : List Value → EStateM Fault Office Unit
  | [] => pure ()
  | d :: rest => do
      define settings d
      defineAll settings rest

/-- Makes the appenders of the loggers that a configuration defines. -/
def defineLoggers (settings : Configuration) : Option Value → EStateM Fault Office Unit
  | some (.list definitions) => defineAll settings definitions
  | _ => throw .loggersNotAList

/-- Configures the registry, unless it is frozen. -/
def configure (c : Config) : EStateM Fault Office Unit := do
  let o ← get
  if o.registry.frozen then set { o with env := o.env.report .alreadyInUse }
  else
    let new := settings o.registry.configuration.join c
    set { o with registry := { o.registry with configuration := some (some new) } }
    addAppenders (candidates c.appenders)
    defineLoggers new c.loggers

/-- Configures the registry with something that is no mapping. No setting can be read from it, but the
    registry counts as configured, unless it is frozen. -/
def misconfigure : EStateM Fault Office Unit := fun o =>
  if o.registry.frozen then .ok () { o with env := o.env.report .alreadyInUse }
  else
    .error .settingsNotAMapping
      { o with registry := { o.registry with configuration := some o.registry.configuration.join } }

/-- The configuration that is used if none was given before the first logger was asked for. -/
def defaultConfig : Config where
  layout := some (.str Appender.defaultLayout)
  injection := some (.bool true)
  appenders := some (.list [.cls Appender.consoleClass])
  loggers := some (.list [.map [(Config.levelKey, .int Level.info)]])
  others := []

/-- Configures the registry with the default configuration unless it was configured before. -/
def ensureConfigured : EStateM Fault Office Unit := do
  if (← get).registry.configuration.isNone then configure defaultConfig

/-! ## Levels -/

/-- The appenders with another level. -/
def setLevels (level : Int) (appenders : List Appender) : List Appender :=
  appenders.map fun a => { a with level := level }

/-- The registry with another level for the appenders of one tag, or of all tags without one. -/
def withLevel (r : Registry) (level : Int) : Option Key → Registry
  | none => { r with loggers := r.loggers.map fun p => (p.1, setLevels level p.2) }
  | some tag =>
      { r with loggers := r.loggers.map fun p =>
          if p.1 = r.tagFor tag then (p.1, setLevels level p.2) else p }

/-- Sets the level of the appenders of one tag, or of all tags if the tag counts as not set. -/
def setLogLevel (level tag : Value) : EStateM Fault Office Unit := fun o =>
  match Level.ofValue none level with
  | .error f => .error f o
  | .ok none => .ok () { o with env := o.env.report .levelMissing }
  | .ok (some l) =>
      if tag.isSet then
        match tag.toKey? with
        | some key => .ok () { o with registry := o.registry.withLevel l (some key) }
        | none => .error .tagNotAKey o
      else .ok () { o with registry := o.registry.withLevel l none }

/-! ## Delivering events -/

/-- The appenders of a tag. -/
def appendersOf (r : Registry) (tag : Key) : List Appender :=
  (r.loggers.get? (r.tagFor tag)).getD []

/-- The tag to whose appenders the events of a logger go. -/
def route (r : Registry) (logger : Text) : Key :=
  if r.loggers.has (.str logger) then .str logger else .str mainTag

/-- Delivers an event. The registry is frozen afterwards, and the appenders of the tag are as
    delivering left them. -/
def deliver (e : Event) : EStateM Fault Office Unit := fun o =>
  let tag := o.registry.route e.logger
  let (appenders, fault, s) := Appender.appendAll (o.registry.appendersOf tag) ⟨o.env, e⟩
  let loggers := if o.registry.loggers.has tag then o.registry.loggers.put tag appenders
    else o.registry.loggers
  let o' : Office := ⟨s.env, { o.registry with frozen := true, loggers := loggers }⟩
  match fault with
  | none => .ok () o'
  | some f => .error f o'

end Registry
end EventLog

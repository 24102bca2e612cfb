import EventLog.Session

set_option autoImplicit false

/-! # What the operations do to the registry

Configuring, registering and setting levels are steps of a machine that also reads and changes the
environment: layouts are compiled and notices are given on the way. What happens to the registry does
not depend on that. This file describes it by functions on registries alone: `configured` is what a
configuration leaves behind, with the fault that ended it, `leveled` what setting a level does, and
`received` what the delivery of an event does. `configure_eq` and its companions say that the machine
does just this, and the lemmas on `Session.after` carry it over to the operations of a session.

A configuration is read until the first fault, so what is left is described by `upToFault`: the
classes before the first candidate that is refused, and the loggers before the first definition that
is malformed. -/

namespace EventLog

/-! ## Up to the first fault -/

/-- What a function gives on the items of a list up to the first fault, and that fault. -/
def upToFault {α β : Type} (f : α → Except Fault β) : List α → List β × Option Fault
  | [] => ([], none)
  | a :: rest =>
      match f a with
      | .ok b => (b :: (upToFault f rest).1, (upToFault f rest).2)
      | .error e => ([], some e)

/-- The end of an operation: with this fault, or without one. -/
def ended {σ : Type} : Option Fault → σ → EStateM.Result Fault σ Unit
  | none, s => .ok () s
  | some f, s => .error f s

/-- The state in which something ended, with a fault or without one. -/
def finalState {σ α : Type} : EStateM.Result Fault σ α → σ
  | .ok _ s => s
  | .error _ s => s

/-- The second part of a computation goes on where the first one ended without a fault. -/
theorem bind_apply {σ α β : Type} (x : EStateM Fault σ α) (f : α → EStateM Fault σ β) (s : σ) :
    (x >>= f) s
      = match x s with
        | .ok a s' => f a s'
        | .error e s' => .error e s' := by
  simp only [bind, EStateM.bind]
  cases x s <;> rfl

/-- What two computations keep, each wherever it ends, is kept if one goes on with the other. -/
theorem finalState_bind {σ α β : Type} {P : σ → Prop} {x : EStateM Fault σ α}
    {f : α → EStateM Fault σ β} (hx : ∀ s, P s → P (finalState (x s)))
    (hf : ∀ a s, P s → P (finalState (f a s))) (s : σ) (h : P s) :
    P (finalState ((x >>= f) s)) := by
  have hs := hx s h
  rw [bind_apply]
  cases hr : x s with
  | error e s' =>
      rw [hr] at hs
      exact hs
  | ok a s' =>
      rw [hr] at hs
      exact hf a s' hs

@[simp] theorem finalState_ended {σ : Type} (fault : Option Fault) (s : σ) :
    finalState (ended fault s) = s := by
  cases fault <;> rfl

/-- Every result of `upToFault` is what the function gives on some item. -/
theorem exists_of_mem_upToFault {α β : Type} (f : α → Except Fault β) (items : List α) (b : β)
    (h : b ∈ (upToFault f items).1) : ∃ a ∈ items, f a = .ok b := by
  induction items with
  | nil => simp [upToFault] at h
  | cons a rest ih =>
      rw [upToFault] at h
      cases ha : f a with
      | error e => simp [ha] at h
      | ok c =>
          rw [ha] at h
          rcases List.mem_cons.1 h with rfl | h
          · exact ⟨a, by simp, ha⟩
          · obtain ⟨a', hm, ha'⟩ := ih h
            exact ⟨a', List.mem_cons_of_mem _ hm, ha'⟩

/-- The items of a second list are reached if there is no fault in the first one. -/
theorem upToFault_append {α β : Type} (f : α → Except Fault β) (as bs : List α) :
    upToFault f (as ++ bs)
      = match (upToFault f as).2 with
        | some e => ((upToFault f as).1, some e)
        | none => ((upToFault f as).1 ++ (upToFault f bs).1, (upToFault f bs).2) := by
  induction as with
  | nil => rfl
  | cons a rest ih =>
      rw [List.cons_append, upToFault, upToFault, ih]
      cases f a with
      | error e => rfl
      | ok b => cases (upToFault f rest).2 <;> rfl

namespace Registry

/-! ## Registering classes -/

/-- The registry with several more classes. -/
def addClasses (r : Registry) (ps : List (Text × AppenderClass)) : Registry :=
  ps.foldl (fun r p => r.addClass p.1 p.2) r

/-- The classes in the order in which they were registered. -/
def classList (r : Registry) : List AppenderClass :=
  r.classes.map (·.2)

theorem addClass_eq (r : Registry) (name : Text) (c : AppenderClass) :
    r.addClass name c = { r with classes := (r.addClass name c).classes } := by
  unfold addClass
  split <;> rfl

theorem addClass_of_has (r : Registry) {name : Text} (c : AppenderClass)
    (h : r.classes.has name = true) : r.addClass name c = r := by
  rw [addClass, if_pos h]

theorem refusesClasses_addClass (r : Registry) (name : Text) (c : AppenderClass) :
    (r.addClass name c).refusesClasses = r.refusesClasses := by
  rw [addClass_eq]
  rfl

/-- Registering classes changes nothing but the classes. -/
theorem addClasses_eq (r : Registry) (ps : List (Text × AppenderClass)) :
    r.addClasses ps = { r with classes := (r.addClasses ps).classes } := by
  induction ps generalizing r with
  | nil => rfl
  | cons p ps ih =>
      have hp := ih (r.addClass p.1 p.2)
      rw [addClass_eq r p.1 p.2] at hp
      rw [addClasses, List.foldl_cons, ← addClasses, addClass_eq r p.1 p.2]
      exact hp

theorem addAppender_of_refuses (candidate : Candidate) (o : Office)
    (h : o.registry.refusesClasses = true) :
    addAppender candidate o = .ok () { o with env := o.env.report .injectionRefused } := by
  rw [addAppender, if_pos h]

theorem addAppender_of_accepts (candidate : Candidate) (o : Office)
    (h : o.registry.refusesClasses = false) :
    addAppender candidate o
      = match accept candidate with
        | .ok p => .ok () { o with registry := o.registry.addClass p.1 p.2 }
        | .error f => .error f o := by
  have hn : ¬ o.registry.refusesClasses = true := by rw [h]; simp
  rw [addAppender, if_neg hn]
  cases accept candidate <;> rfl

/-- Registering candidates registers those before the first one that is refused. -/
theorem addAppenders_eq (cs : List Candidate) (o : Office)
    (h : o.registry.refusesClasses = false) :
    addAppenders cs o
      = ended (upToFault accept cs).2
          { o with registry := o.registry.addClasses (upToFault accept cs).1 } := by
  induction cs generalizing o with
  | nil => rfl
  | cons c rest ih =>
      rw [addAppenders, bind_apply, addAppender_of_accepts c o h, upToFault]
      cases hc : accept c with
      | error f => rfl
      | ok p =>
          have hr := (refusesClasses_addClass o.registry p.1 p.2).trans h
          exact ih { o with registry := o.registry.addClass p.1 p.2 } hr

/-! ## Making the appenders of loggers -/

/-- An appender of each class with this level and layout. -/
def made (level : Int) (layout : Value) (classes : List AppenderClass) :
    Except Fault (List Appender) :=
  match classes, layout with
  | [], _ => .ok []
  | classes, .str t => .ok (classes.map (Appender.ofClass · level t))
  | _, .list _ | _, .map _ => .error (.layoutNotAText false)
  | _, _ => .error (.layoutNotAText true)

theorem made_str (level : Int) (t : Text) (classes : List AppenderClass) :
    made level (.str t) classes = .ok (classes.map (Appender.ofClass · level t)) := by
  cases classes <;> rfl

/-- The tag and the appenders that a definition asks for. -/
def entry (settings : Configuration) (classes : List AppenderClass) :
    Value → Except Fault (Key × List Appender)
  | .map es =>
      match Level.ofValue (some Level.error) ((Entries.get? es Config.levelKey).getD .null) with
      | .error f => .error f
      | .ok level =>
          match made (level.getD Level.error) (layoutOf es settings) classes with
          | .error f => .error f
          | .ok appenders =>
              match (tagOf es).toKey? with
              | none => .error .tagNotAKey
              | some tag => .ok (tag, appenders)
  | _ => .error .definitionNotAMapping

/-- The tags and appenders that the loggers of a configuration ask for, up to the first malformed
    definition. -/
def entries (settings : Configuration) (classes : List AppenderClass) :
    Option Value → List (Key × List Appender) × Option Fault
  | some (.list definitions) => upToFault (entry settings classes) definitions
  | _ => ([], some .loggersNotAList)

/-- The registry with these appenders for a tag. -/
def withEntry (r : Registry) (p : Key × List Appender) : Registry :=
  { r with loggers := r.loggers.put (r.tagFor p.1) p.2 }

/-- The registry with the appenders of several tags, one tag after the other. -/
def withEntries (r : Registry) (ps : List (Key × List Appender)) : Registry :=
  ps.foldl withEntry r

/-- Entering appenders changes nothing but the loggers. -/
theorem withEntries_eq (r : Registry) (ps : List (Key × List Appender)) :
    r.withEntries ps = { r with loggers := (r.withEntries ps).loggers } := by
  induction ps generalizing r with
  | nil => rfl
  | cons p ps ih => exact ih (r.withEntry p)

/-- A layout that is a text is compiled into the environment, where the other appenders start. -/
theorem makeAppenders_cons (level : Int) (t : Text) (c : AppenderClass) (rest : List AppenderClass)
    (env : Environment) :
    makeAppenders level (.str t) (c :: rest) env
      = match makeAppenders level (.str t) rest (env.fetch t).2 with
        | .ok others env' => .ok (Appender.ofClass c level t :: others) env'
        | .error f env' => .error f env' := by
  rw [makeAppenders, bind_apply]
  show EStateM.bind (makeAppenders level (.str t) rest) _ (env.fetch t).2 = _
  rw [EStateM.bind]
  cases makeAppenders level (.str t) rest (env.fetch t).2 <;> rfl

theorem makeAppenders_eq (level : Int) (layout : Value) (classes : List AppenderClass)
    (env : Environment) :
    ∃ env', makeAppenders level layout classes env
      = match made level layout classes with
        | .ok appenders => .ok appenders env'
        | .error f => .error f env' := by
  induction classes generalizing env with
  | nil => exact ⟨env, rfl⟩
  | cons c rest ih =>
      cases layout with
      | str t =>
          obtain ⟨env', h⟩ := ih (env.fetch t).2
          rw [made_str] at h
          refine ⟨env', ?_⟩
          rw [makeAppenders_cons, h]
          rfl
      | _ => exact ⟨env, rfl⟩

theorem define_map (settings : Configuration) (es : Entries) (o : Office) :
    define settings (.map es) o
      = match Level.ofValue (some Level.error) ((Entries.get? es Config.levelKey).getD .null) with
        | .error f => .error f o
        | .ok level =>
            match makeAppenders (level.getD Level.error) (layoutOf es settings)
                o.registry.classList o.env with
            | .error f env => .error f { o with env := env }
            | .ok appenders env =>
                match (tagOf es).toKey? with
                | none => .error .tagNotAKey { o with env := env }
                | some tag => .ok () ⟨env, o.registry.withEntry (tag, appenders)⟩ :=
  rfl

/-- Making the appenders of a logger enters what its definition asks for. -/
theorem define_eq (settings : Configuration) (d : Value) (o : Office) :
    ∃ env, define settings d o
      = match entry settings o.registry.classList d with
        | .ok p => .ok () ⟨env, o.registry.withEntry p⟩
        | .error f => .error f ⟨env, o.registry⟩ := by
  cases d with
  | map es =>
      rw [define_map, entry]
      cases Level.ofValue (some Level.error) ((Entries.get? es Config.levelKey).getD .null) with
      | error f => exact ⟨o.env, rfl⟩
      | ok level =>
          obtain ⟨env, h⟩ := makeAppenders_eq (level.getD Level.error) (layoutOf es settings)
            o.registry.classList o.env
          refine ⟨env, ?_⟩
          dsimp only
          rw [h]
          cases made (level.getD Level.error) (layoutOf es settings) o.registry.classList with
          | error f => rfl
          | ok appenders => cases (tagOf es).toKey? <;> rfl
  | _ => exact ⟨o.env, rfl⟩

theorem defineAll_eq (settings : Configuration) (ds : List Value) (o : Office) :
    ∃ env, defineAll settings ds o
      = ended (upToFault (entry settings o.registry.classList) ds).2
          ⟨env, o.registry.withEntries (upToFault (entry settings o.registry.classList) ds).1⟩ := by
  induction ds generalizing o with
  | nil => exact ⟨o.env, rfl⟩
  | cons d rest ih =>
      obtain ⟨env, hd⟩ := define_eq settings d o
      rw [defineAll, bind_apply, hd, upToFault]
      cases he : entry settings o.registry.classList d with
      | error f => exact ⟨env, rfl⟩
      | ok p => exact ih ⟨env, o.registry.withEntry p⟩

theorem defineLoggers_eq (settings : Configuration) (loggers : Option Value) (o : Office) :
    ∃ env, defineLoggers settings loggers o
      = ended (entries settings o.registry.classList loggers).2
          ⟨env, o.registry.withEntries (entries settings o.registry.classList loggers).1⟩ := by
  rcases loggers with _ | ⟨_ | _ | _ | _ | _ | _ | _ | ds | _ | _⟩
  case some.list => exact defineAll_eq settings ds o
  all_goals exact ⟨o.env, rfl⟩

/-! ## Configuring -/

/-- What configuring leaves of a registry that is not frozen, and the fault with which it ends. -/
def configured (r : Registry) (c : Config) : Registry × Option Fault :=
  let new := settings r.configuration.join c
  let accepted := upToFault accept (candidates c.appenders)
  let r' := { r with configuration := some (some new) }.addClasses accepted.1
  match accepted.2 with
  | some f => (r', some f)
  | none =>
      let es := entries new r'.classList c.loggers
      (r'.withEntries es.1, es.2)

theorem configure_of_frozen (c : Config) (o : Office) (h : o.registry.frozen = true) :
    configure c o = .ok () { o with env := o.env.report .alreadyInUse } := by
  rw [configure, bind_apply]
  show (if o.registry.frozen then _ else _ : EStateM Fault Office Unit) o = _
  rw [if_pos h]
  rfl

/-- A configuration that is not refused stores the settings, registers the classes and makes the
    appenders of the loggers. -/
theorem configure_of_not_frozen (c : Config) (o : Office) (h : o.registry.frozen = false) :
    configure c o
      = (addAppenders (candidates c.appenders) >>= fun _ =>
          defineLoggers (settings o.registry.configuration.join c) c.loggers)
        { o with registry :=
          { o.registry with
            configuration := some (some (settings o.registry.configuration.join c)) } } := by
  have hn : ¬ o.registry.frozen = true := by rw [h]; simp
  rw [configure, bind_apply]
  show (if o.registry.frozen then _ else _ : EStateM Fault Office Unit) o = _
  rw [if_neg hn]
  rfl

/-- Configuring a registry that is not frozen ends as `configured` says. -/
theorem configure_eq (c : Config) (o : Office) (h : o.registry.frozen = false) :
    ∃ env, configure c o
      = ended (o.registry.configured c).2 ⟨env, (o.registry.configured c).1⟩ := by
  let new := settings o.registry.configuration.join c
  let o' : Office := { o with registry := { o.registry with configuration := some (some new) } }
  -- the registry is not frozen, so every candidate is tried
  have hr : o'.registry.refusesClasses = false := by
    show (o.registry.frozen && _) = false
    rw [h, Bool.false_and]
  have hb : configure c o
      = (addAppenders (candidates c.appenders) >>= fun _ => defineLoggers new c.loggers) o' :=
    configure_of_not_frozen c o h
  rw [hb, bind_apply, addAppenders_eq _ o' hr, configured]
  dsimp only
  cases (upToFault accept (candidates c.appenders)).2 with
  | some f => exact ⟨o.env, rfl⟩
  | none => exact defineLoggers_eq new c.loggers _

theorem misconfigure_of_frozen (o : Office) (h : o.registry.frozen = true) :
    misconfigure o = .ok () { o with env := o.env.report .alreadyInUse } := by
  rw [misconfigure, if_pos h]

/-- The default configuration has no fault, whatever classes there are. -/
theorem fault_configured_default (r : Registry) : (r.configured defaultConfig).2 = none := by
  -- the console has a name, the layout is a text and the missing tag is the main one
  have ha : upToFault accept (candidates defaultConfig.appenders)
      = ([(("console" : Text), Appender.consoleClass)], none) := rfl
  have he : ∀ classes : List AppenderClass,
      (entries (settings r.configuration.join defaultConfig) classes defaultConfig.loggers).2
        = none := by
    intro classes
    have hd : entry (settings r.configuration.join defaultConfig) classes
        (.map [(Config.levelKey, .int Level.info)])
        = .ok (.str mainTag,
            classes.map (Appender.ofClass · Level.info Appender.defaultLayout)) := by
      cases classes <;> rfl
    show (upToFault _ [_]).2 = none
    rw [upToFault, hd]
    rfl
  rw [configured, ha]
  exact he _

theorem ensureConfigured_apply (o : Office) :
    ensureConfigured o
      = if o.registry.configuration.isNone then configure defaultConfig o else .ok () o := by
  rw [ensureConfigured, bind_apply]
  show (if o.registry.configuration.isNone then configure defaultConfig else pure ()) o = _
  split <;> rfl

/-- Making sure that the registry is configured never ends with a fault. -/
theorem exists_ensureConfigured_eq (o : Office) : ∃ o', ensureConfigured o = .ok () o' := by
  rw [ensureConfigured_apply]
  split
  · by_cases h : o.registry.frozen = true
    · exact ⟨_, configure_of_frozen defaultConfig o h⟩
    · obtain ⟨env, he⟩ := configure_eq defaultConfig o (eq_false_of_ne_true h)
      rw [fault_configured_default] at he
      exact ⟨_, he⟩
  · exact ⟨o, rfl⟩

/-! ## Levels -/

/-- What setting a level leaves of the registry. -/
def leveled (r : Registry) (level tag : Value) : Registry :=
  match Level.ofValue none level with
  | .ok (some l) =>
      if tag.isSet then
        match tag.toKey? with
        | some key => r.withLevel l (some key)
        | none => r
      else r.withLevel l none
  | _ => r

/-- Setting a level changes nothing but the loggers. -/
theorem leveled_eq (r : Registry) (level tag : Value) :
    r.leveled level tag = { r with loggers := (r.leveled level tag).loggers } := by
  unfold leveled
  split
  · split
    · split <;> rfl
    · rfl
  · rfl

theorem finalState_setLogLevel (level tag : Value) (o : Office) :
    (finalState (setLogLevel level tag o)).registry = o.registry.leveled level tag := by
  rw [setLogLevel, leveled]
  cases Level.ofValue none level with
  | error f => rfl
  | ok l =>
      cases l with
      | none => rfl
      | some l =>
          dsimp only
          by_cases ht : tag.isSet = true
          · rw [if_pos ht, if_pos ht]
            cases tag.toKey? <;> rfl
          · rw [if_neg ht, if_neg ht]
            rfl

/-! ## Deliveries -/

/-- The registry without what the appenders kept. -/
def bare (r : Registry) : Registry :=
  { r with loggers := r.loggers.mapValues (·.map Appender.bare) }

/-- A tag that is a text is spelled in one way only. -/
theorem tagFor_str (r : Registry) (t : Text) : r.tagFor (.str t) = .str t := by
  unfold tagFor
  cases h : r.loggers.keys.find? (·.same (.str t)) with
  | none => rfl
  | some k =>
      have hs : k.same (.str t) = true := by simpa using List.find?_some h
      exact (Key.same_str_iff k t).1 hs

theorem exists_route (r : Registry) (logger : Text) : ∃ t, r.route logger = .str t := by
  unfold route
  split
  · exact ⟨logger, rfl⟩
  · exact ⟨mainTag, rfl⟩

/-- A delivery freezes the registry, and changes nothing else but what the appenders keep. -/
theorem bare_deliver (e : Event) (o : Office) :
    (finalState (deliver e o)).registry.bare = { o.registry.bare with frozen := true } := by
  -- a text has one spelling, so the appenders are put back where they were found
  obtain ⟨t, ht⟩ := exists_route o.registry e.logger
  have hd : (finalState (deliver e o)).registry
      = { o.registry with
          frozen := true,
          loggers :=
            if o.registry.loggers.has (.str t) then
              o.registry.loggers.put (.str t)
                (Appender.appendAll (o.registry.appendersOf (.str t)) ⟨o.env, e⟩).1
            else o.registry.loggers } := by
    rw [← ht, deliver]
    dsimp only
    cases (Appender.appendAll (o.registry.appendersOf (o.registry.route e.logger))
      ⟨o.env, e⟩).2.1 <;> rfl
  rw [hd]
  by_cases hh : o.registry.loggers.has (.str t) = true
  · obtain ⟨as, has⟩ := Option.isSome_iff_exists.1 hh
    have happ : o.registry.appendersOf (.str t) = as := by
      rw [appendersOf, tagFor_str, has]
      rfl
    have hput : (o.registry.loggers.put (.str t)
        (Appender.appendAll as ⟨o.env, e⟩).1).mapValues (·.map Appender.bare)
        = o.registry.loggers.mapValues (·.map Appender.bare) := by
      rw [Table.mapValues_put, Appender.map_bare_appendAll]
      exact Table.put_of_get? _ _ _ (by rw [Table.get?_mapValues, has]; rfl)
    rw [if_pos hh, happ]
    simp only [bare, hput]
  · rw [if_neg hh]
    rfl

end Registry

/-! ## Operations of a session -/

namespace Session

theorem after_eq_finalState (s : Session) (op : Operation) :
    s.after op = finalState (perform op s) := by
  unfold after
  cases perform op s <;> rfl

theorem finalState_inOffice {α : Type} (x : EStateM Fault Office α) (s : Session) :
    finalState (inOffice x s) = s.withOffice (finalState (x s.office)) := by
  unfold inOffice
  cases x s.office <;> rfl

/-- What configuring leaves of a registry, frozen or not. -/
theorem registry_after_configure (s : Session) (c : Config) :
    (s.after (.configure c)).registry
      = if s.registry.frozen then s.registry else (s.registry.configured c).1 := by
  rw [after_eq_finalState, perform, finalState_inOffice]
  by_cases h : s.registry.frozen = true
  · rw [if_pos h, Registry.configure_of_frozen c s.office h]
    rfl
  · obtain ⟨env, he⟩ := Registry.configure_eq c s.office (eq_false_of_ne_true h)
    rw [if_neg h, he, finalState_ended]
    rfl

theorem loggers_after_configure (s : Session) (c : Config) :
    (s.after (.configure c)).loggers = s.loggers := by
  rw [after_eq_finalState, perform, finalState_inOffice]
  rfl

theorem registry_after_misconfigure (s : Session) :
    (s.after .misconfigure).registry
      = if s.registry.frozen then s.registry
        else { s.registry with configuration := some s.registry.configuration.join } := by
  rw [after_eq_finalState, perform, finalState_inOffice, Registry.misconfigure]
  show (s.withOffice (finalState (if s.registry.frozen then _ else _))).registry = _
  split <;> rfl

theorem registry_after_addAppender (s : Session) (candidate : Candidate) :
    (s.after (.addAppender candidate)).registry
      = if s.registry.refusesClasses then s.registry
        else
          match Registry.accept candidate with
          | .ok p => s.registry.addClass p.1 p.2
          | .error _ => s.registry := by
  rw [after_eq_finalState, perform, finalState_inOffice]
  by_cases h : s.registry.refusesClasses = true
  · rw [if_pos h, Registry.addAppender_of_refuses candidate s.office h]
    rfl
  · rw [if_neg h, Registry.addAppender_of_accepts candidate s.office
      (eq_false_of_ne_true h)]
    cases Registry.accept candidate <;> rfl

/-- Asking for a logger configures a registry that was not configured before, unless it is frozen. -/
theorem registry_after_getLogger (s : Session) (context : LoggerContext) (stack : Bool)
    (ticks : Int) :
    (s.after (.getLogger context stack ticks)).registry
      = if s.registry.configuration.isNone && !s.registry.frozen then
          (s.registry.configured Registry.defaultConfig).1
        else s.registry := by
  have hm : (s.after (.getLogger context stack ticks)).registry
      = (finalState (Registry.ensureConfigured s.office)).registry := by
    rw [after_eq_finalState, perform, getLogger, bind_apply, inOffice]
    cases Registry.ensureConfigured s.office <;> rfl
  have ho : s.office.registry = s.registry := rfl
  rw [hm, Registry.ensureConfigured_apply, ho]
  by_cases hc : s.registry.configuration.isNone = true
  · rw [if_pos hc, hc, Bool.true_and]
    by_cases hf : s.registry.frozen = true
    · rw [Registry.configure_of_frozen _ s.office hf, hf]
      rfl
    · have hf := eq_false_of_ne_true hf
      obtain ⟨env, he⟩ := Registry.configure_eq Registry.defaultConfig s.office hf
      rw [he, finalState_ended, hf]
      rfl
  · rw [if_neg hc, eq_false_of_ne_true hc]
    rfl

/-- Whoever asks for a logger gets one. -/
theorem loggers_after_getLogger (s : Session) (context : LoggerContext) (stack : Bool)
    (ticks : Int) :
    (s.after (.getLogger context stack ticks)).loggers
      = s.loggers ++ [Logger.new context.loggerName stack ticks] := by
  obtain ⟨o, ho⟩ := Registry.exists_ensureConfigured_eq s.office
  rw [after_eq_finalState, perform, getLogger, bind_apply, inOffice, ho]
  rfl

theorem registry_after_setLogLevel (s : Session) (level tag : Value) :
    (s.after (.setLogLevel level tag)).registry = s.registry.leveled level tag := by
  rw [after_eq_finalState, perform, finalState_inOffice]
  exact Registry.finalState_setLogLevel level tag s.office

/-- A log call on a logger freezes the registry, and changes nothing else but what the appenders
    keep. -/
theorem bare_registry_after_log (s : Session) (handle : Nat) (call : Call) (level : Int)
    (message : Value) (args : List Value) :
    (s.after (.log handle call level message args)).registry.bare
      = if handle < s.loggers.length then { s.registry.bare with frozen := true }
        else s.registry.bare := by
  rw [after_eq_finalState, perform, log]
  by_cases h : handle < s.loggers.length
  · rw [List.getElem?_eq_getElem h, if_pos h]
    dsimp only
    rw [finalState_inOffice]
    exact Registry.bare_deliver _ _
  · rw [List.getElem?_eq_none (by omega), if_neg h]
    rfl

theorem configuration_after_log (s : Session) (handle : Nat) (call : Call) (level : Int)
    (message : Value) (args : List Value) :
    (s.after (.log handle call level message args)).registry.configuration
      = s.registry.configuration := by
  have hb := congrArg Registry.configuration (bare_registry_after_log s handle call level message args)
  rw [apply_ite Registry.configuration, ite_self] at hb
  exact hb

@[simp] theorem registry_after_install (s : Session) (source : LocationSource) :
    (s.after (.install source)).registry = s.registry := rfl

@[simp] theorem registry_after_reset (s : Session) : (s.after .reset).registry = .empty := rfl

end Session
end EventLog

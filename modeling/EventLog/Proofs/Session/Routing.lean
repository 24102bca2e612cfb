import EventLog.Proofs.Registry.Delivery

set_option autoImplicit false

/-! # Where the event of a log call goes

A log call makes one event, and the event goes to the audience of the logger, whatever came before: the
appenders of its own tag or of the main one, as levels and configurations left them. `event_routing` says
what a log call that ends without a fault does to the console, to the registry and to the appenders. -/

namespace EventLog

namespace Environment

theorem foldl_report_eq (env : Environment) (ns : List Notice) :
    ns.foldl report env = { env with notices := env.notices ++ ns } := by
  induction ns generalizing env with
  | nil => simp
  | cons n ns ih =>
      rw [List.foldl_cons, ih]
      simp [report]

end Environment

namespace Logger

variable (l : Logger) (call : Call) (level : Int) (message : Value) (args : List Value)

theorem level_log : (l.log call level message args).1.level = level := by
  obtain ⟨error, properties, h⟩ := l.log_fst_eq call level message args
  rw [h]
  rfl

theorem logger_log : (l.log call level message args).1.logger = l.name := by
  obtain ⟨error, properties, h⟩ := l.log_fst_eq call level message args
  rw [h]
  rfl

end Logger

namespace Session

/-- A log call gives notices about ignored arguments and delivers its event, in this order. -/
theorem perform_log_eq (s : Session) {handle : Nat} {l : Logger} (hl : s.loggers[handle]? = some l)
    (call : Call) (level : Int) (message : Value) (args : List Value) :
    perform (.log handle call level message args) s
      = inOffice (Registry.deliver (l.log call level message args).1)
          { s with
            env := { s.env with notices := s.env.notices ++ (l.log call level message args).2.1 }
            loggers := s.loggers.set handle (l.log call level message args).2.2 } := by
  rw [perform, log, hl]
  dsimp only
  rw [Environment.foldl_report_eq]

theorem perform_log (s : Session) {handle : Nat} {l : Logger} (hl : s.loggers[handle]? = some l)
    (call : Call) (level : Int) (message : Value) (args : List Value) :
    perform (.log handle call level message args) s
      = match Registry.deliver (l.log call level message args).1
          ⟨{ s.env with notices := s.env.notices ++ (l.log call level message args).2.1 },
            s.registry⟩ with
        | .ok u o =>
            .ok u ⟨o.env, o.registry, s.loggers.set handle (l.log call level message args).2.2⟩
        | .error f o =>
            .error f ⟨o.env, o.registry, s.loggers.set handle (l.log call level message args).2.2⟩ := by
  rw [s.perform_log_eq hl]
  dsimp only [inOffice, office]
  cases Registry.deliver (l.log call level message args).1
    ⟨{ s.env with notices := s.env.notices ++ (l.log call level message args).2.1 },
      s.registry⟩ <;> rfl

/-- Environment and registry after a log call are those after the delivery of its event. -/
theorem office_after_log (s : Session) {handle : Nat} {l : Logger}
    (hl : s.loggers[handle]? = some l) (call : Call) (level : Int) (message : Value)
    (args : List Value) :
    (s.after (.log handle call level message args)).office
      = finalState (Registry.deliver (l.log call level message args).1
          ⟨{ s.env with notices := s.env.notices ++ (l.log call level message args).2.1 },
            s.registry⟩) := by
  rw [after_eq_finalState, perform_log s hl]
  cases Registry.deliver (l.log call level message args).1
    ⟨{ s.env with notices := s.env.notices ++ (l.log call level message args).2.1 },
      s.registry⟩ <;> rfl

/-- A log call on a logger that was never asked for does nothing. -/
theorem after_log_of_unknown (s : Session) {handle : Nat} (hl : s.loggers[handle]? = none)
    (call : Call) (level : Int) (message : Value) (args : List Value) :
    s.after (.log handle call level message args) = s := by
  rw [after_eq_finalState, perform, log, hl]
  rfl

/-- The event `e` of a log call that ends without a fault goes to the audience of the logger `l`:

* each appender of the audience that is active for the level receives it once, in order of the list, each
  delivery starting where the one before ended. A console writes `e` by its layout and a line end, in one
  piece, if the level is within its own, and nothing otherwise; no other appender writes to the console;
* the levels 100, 200 and 300 are written to the stream for errors and all others to the other one, where
  nothing else is written;
* the appenders of the audience that are not active, and those of all other tags, are as they were, and
  apart from what appenders keep, nothing of the registry changes but that it is frozen. -/
theorem event_routing (s s' : Session) (handle : Nat) (call : Call) (level : Int) (message : Value)
    (args : List Value) (l : Logger) (hl : s.loggers[handle]? = some l)
    (hok : perform (.log handle call level message args) s = .ok () s') :
    let e := (l.log call level message args).1
    let notices := s.env.notices ++ (l.log call level message args).2.1
    let before := s.registry.audience l.name
    let after := s'.registry.audience l.name
    ∃ receipts e',
      (receipts.map (·.appender) = before.filter (·.isActive level)
          ∧ Receipt.Chain ⟨{ s.env with notices := notices }, e⟩ receipts ⟨s'.env, e'⟩
          ∧ ∀ r ∈ receipts, r.IsDelivery e)
        ∧ (s'.env.output
              = s.env.output
                ++ (if Level.IsSevere level then [] else (receipts.flatMap (·.writes)).flatten)
            ∧ s'.env.errors
              = s.env.errors
                ++ if Level.IsSevere level then (receipts.flatMap (·.writes)).flatten else [])
        ∧ after.filter (·.isActive level) = receipts.map (·.kept)
        ∧ after.filter (!·.isActive level) = before.filter (!·.isActive level)
        ∧ (∀ tag, tag ≠ s.registry.route l.name →
            s'.registry.loggers.get? tag = s.registry.loggers.get? tag)
        ∧ s'.registry.bare = { s.registry.bare with frozen := true } := by
  intro e notices before after
  have hlevel : e.level = level := l.level_log call level message args
  have hname : e.logger = l.name := l.logger_log call level message args
  rw [perform_log s hl] at hok
  cases hd : Registry.deliver e ⟨{ s.env with notices := notices }, s.registry⟩ with
  | error f o =>
      rw [hd] at hok
      cases hok
  | ok u o =>
      rw [hd] at hok
      obtain ⟨-, rfl⟩ := EStateM.Result.ok.inj hok
      have hbare := Registry.bare_deliver e ⟨{ s.env with notices := notices }, s.registry⟩
      obtain ⟨receipts, e', hc, hr, hserved, hother⟩ := Registry.exists_receipts_deliver hd
      rw [hd] at hbare
      rw [hlevel, hname] at hserved
      rw [hname] at hother
      obtain ⟨ho, he⟩ := hc.streams hr
      rw [hlevel] at ho he
      exact ⟨receipts, e', ⟨hserved.receivers, hc, hr⟩, ⟨ho, he⟩, hserved.active, hserved.others,
        hother, hbare⟩

/-- A logger with a tag of its own writes by the level and the layout of that tag, to the appenders that
    are active: the event is not severe enough for the second one. -/
theorem event_routing_to_own_tag :
    let audit : AppenderClass :=
      ⟨"Audit", some "audit", fun level => level.any (· ≤ 200), .keep true⟩
    let config : Config :=
      { Config.empty with
        appenders := some (.list [.cls Appender.consoleClass, .cls audit])
        loggers := some (.list [.map [(Config.levelKey, .int 100)],
          .map [(Config.tagKey, .str "db"), (Config.levelKey, .int 400),
            (Config.layoutKey, .str "<%m>")]]) }
    let s := (initial .universal).run [.configure config, .getLogger (.named "db") false 0]
    let call : Call := ⟨.millis 0, 0, []⟩
    ∃ (s' : Session) (receipts : List Receipt),
      perform (.log 0 call 300 (.str "slow") []) s = .ok () s'
        ∧ receipts.map (fun r => (r.appender.cls.className, r.appender.level, r.appender.layout))
          = [(("ConsoleAppender" : Text), (400 : Int), ("<%m>" : Text))]
        ∧ (receipts.flatMap (·.writes)).flatten = "<slow>\n"
        ∧ s'.env.errors = "<slow>\n" := by
  intro audit config s call
  let op : Operation := .log 0 call 300 (.str "slow") []
  have hok : perform op s = .ok () (s.after op) := by
    have hend : (perform op).run' s = some () := by decide +kernel
    unfold after
    cases hp : perform op s with
    | ok u s' => rfl
    | error f s' =>
        delta EStateM.run' EStateM.run at hend
        rw [hp] at hend
        cases hend
  have herrors : (s.after op).env.errors = "<slow>\n" := by decide +kernel
  have hl : s.loggers[0]? = some ⟨"db", false, 0, 1⟩ := by decide +kernel
  obtain ⟨receipts, e', ⟨hreceivers, -, -⟩, ⟨-, he⟩, -⟩ :=
    event_routing s (s.after op) 0 call 300 (.str "slow") [] ⟨"db", false, 0, 1⟩ hl hok
  refine ⟨s.after op, receipts, hok, ?_, ?_, herrors⟩
  · have haudience : ((s.registry.audience "db").filter (·.isActive 300)).map
        (fun a => (a.cls.className, a.level, a.layout))
        = [(("ConsoleAppender" : Text), (400 : Int), ("<%m>" : Text))] := by
      decide +kernel
    rw [← hreceivers, List.map_map] at haudience
    exact haudience
  · have hstart : s.env.errors = [] := by decide +kernel
    rw [herrors, hstart, List.nil_append, if_pos (by decide)] at he
    exact he.symm

end Session
end EventLog

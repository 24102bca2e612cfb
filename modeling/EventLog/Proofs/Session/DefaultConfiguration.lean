import Mathlib.Data.List.Induction
import EventLog.Proofs.Session.PreparedLayouts

set_option autoImplicit false

/-! # The default configuration

Whoever asks for a logger of a registry that was never configured has it configured by default, so that
events are written to the console. A logger outlives a reset, and may deliver an event to the empty
registry before anybody asks for a new one. Nothing receives this event, but it freezes the registry, and
from then on the default configuration is refused like any other: until the next reset nothing is written,
also not for loggers that are asked for later. So the default configuration is in force exactly if a
logger was asked for before the first event after the last reset (`default_written_iff`). -/

namespace EventLog

/-! ## What the default layout shows -/

namespace Layout

/-- An event in the default layout. -/
def defaultText (zone : LocalZone) (e : Event) : Text :=
  Text.strip (DatePattern.format zone e.date none ++ " [" ++ Level.name e.level ++ "] " ++ e.logger
    ++ " - " ++ e.message)

theorem compile_defaultLayout :
    compile Appender.defaultLayout
      = [.directive (some .date) [] " [", .directive (some .level) [] "] ",
          .directive (some .logger) [] " - ", .directive (some .message) [] []] := by
  decide

/-- The default layout shows no source location, so nothing can go wrong. -/
theorem format_defaultLayout (s : Scene) (h : s.env.cache.Sound) :
    format Appender.defaultLayout s
      = .ok (defaultText s.env.zone s.event) { s with env := (s.env.fetch Appender.defaultLayout).2 } := by
  have hz : (s.env.fetch Appender.defaultLayout).2.zone = s.env.zone := by
    rw [s.env.fetch_snd_eq]
  rw [format_eq _ _ h, compile_defaultLayout, renderAll_of_no_empty_field]
  · simp [text, Segment.text, Directive.text, defaultText, hz]
  · simp [Segment.needsLocation, Directive.needsLocation]

end Layout

/-! ## What is written to the console -/

/-- Whether just this was written to the console, to the stream for events of the level. -/
structure Environment.Wrote (env env' : Environment) (level : Int) (t : Text) : Prop where
  output : env'.output = env.output ++ if Level.IsSevere level then [] else t
  errors : env'.errors = env.errors ++ if Level.IsSevere level then t else []

/-- What was written is determined by the streams. -/
theorem Environment.Wrote.unique {env env' : Environment} {level : Int} {t u : Text}
    (h : env.Wrote env' level t) (h' : env.Wrote env' level u) : t = u := by
  have ho := List.append_cancel_left (h.output.symm.trans h'.output)
  have he := List.append_cancel_left (h.errors.symm.trans h'.errors)
  by_cases hs : Level.IsSevere level
  · simpa [hs] using he
  · simpa [hs] using ho

/-- The console of the default configuration. -/
def Appender.standard : Appender :=
  ofClass consoleClass Level.info defaultLayout

namespace Appender

variable {a : Appender}

/-- An appender that is the standard one but for what it keeps writes an event in the default layout. -/
theorem appendAll_standard (ha : a.bare = standard) (s : Scene) (hs : s.env.cache.Sound)
    (hl : s.event.level ≤ Level.info) :
    appendAll [a] s
      = ([a], none,
          { s with
            env := writeLine (s.env.fetch defaultLayout).2 s.event.level
              (Layout.defaultText s.env.zone s.event) }) := by
  have hcls : a.cls = consoleClass := congrArg Appender.cls ha
  have hlevel : a.level = Level.info := congrArg Appender.level ha
  have hlayout : a.layout = defaultLayout := congrArg Appender.layout ha
  have hpasses : a.passes s.event = true := by simpa [passes, hlevel] using hl
  have happend : a.append s
      = .ok a { s with
          env := writeLine (s.env.fetch defaultLayout).2 s.event.level
            (Layout.defaultText s.env.zone s.event) } := by
    rw [append_console a s (by rw [hcls]; rfl), if_pos hpasses, format, hlayout,
      Layout.format_defaultLayout s hs]
  have hactive : a.cls.isActive (some s.event.level) = true := by rw [hcls]; rfl
  rw [appendAll, if_pos hactive, happend]
  rfl

end Appender

namespace Registry

/-! ## Two kinds of registries -/

/-- The registry that the default configuration makes of the empty one. -/
def standard : Registry :=
  (empty.configured defaultConfig).1

theorem loggers_standard : standard.loggers = [(.str mainTag, [Appender.standard])] := rfl

/-- Whether the registry has the default configuration and nothing else, apart from what its appenders
    kept. -/
def HasDefault (r : Registry) : Prop :=
  r.bare = { standard with frozen := r.frozen }

/-- Whether nothing was configured: there are neither classes nor appenders. -/
def Unconfigured (r : Registry) : Prop :=
  r.bare = { empty with frozen := r.frozen }

theorem audience_bare (r : Registry) (logger : Text) :
    r.bare.audience logger = (r.audience logger).map Appender.bare := by
  unfold audience bare
  simp only [Table.get?_mapValues]
  cases r.loggers.get? (.str logger) with
  | some own => rfl
  | none => cases r.loggers.get? (.str mainTag) <;> rfl

/-- With the default configuration all events go to the one console. -/
theorem HasDefault.audience {r : Registry} (h : r.HasDefault) (logger : Text) :
    ∃ a : Appender, a.bare = .standard ∧ r.audience logger = [a] := by
  have hs : standard.audience logger = [.standard] := by
    by_cases hm : logger = mainTag
    · simp [Registry.audience, loggers_standard, Table.get?, hm]
    · simp [Registry.audience, loggers_standard, Table.get?, Ne.symm hm]
  have hb : (r.audience logger).map Appender.bare = [.standard] := by
    rw [← audience_bare, h]
    exact hs
  obtain ⟨a, ha, hbare⟩ := List.map_eq_singleton_iff.1 hb
  exact ⟨a, hbare, ha⟩

theorem Unconfigured.audience {r : Registry} (h : r.Unconfigured) (logger : Text) :
    r.audience logger = [] := by
  have hb : (r.audience logger).map Appender.bare = [] := by
    rw [← audience_bare, h]
    rfl
  exact List.map_eq_nil_iff.1 hb

theorem HasDefault.configuration {r : Registry} (h : r.HasDefault) :
    r.configuration = standard.configuration := by
  show r.bare.configuration = _
  rw [h]

theorem Unconfigured.eq_empty {r : Registry} (h : r.Unconfigured) (hf : r.frozen = false) :
    r = empty := by
  obtain ⟨classes, configuration, frozen, loggers⟩ := r
  simp only [Unconfigured, bare, empty, Registry.mk.injEq, Table.mapValues] at h
  obtain ⟨rfl, rfl, -, hl⟩ := h
  obtain rfl := List.map_eq_nil_iff.1 hl
  obtain rfl : frozen = false := hf
  rfl

end Registry

namespace Session

/-! ## Using loggers without configuring anything -/

/-- Whether the operation uses the registry as it is: it asks for a logger, logs, or changes the
    provider of source locations. -/
def Operation.isUse : Operation → Bool
  | .getLogger .. | .log .. | .install _ => true
  | _ => false

variable (s : Session)

/-- A log call changes nothing of a registry but that it is frozen, and what appenders keep. -/
theorem bare_eq_after_log {r : Registry} (h : s.registry.bare = { r with frozen := s.registry.frozen })
    (handle : Nat) (call : Call) (level : Int) (message : Value) (args : List Value) :
    let s' := s.after (.log handle call level message args)
    s'.registry.bare = { r with frozen := s'.registry.frozen } := by
  intro s'
  have hb : s'.registry.bare = _ := bare_registry_after_log s handle call level message args
  have hf : s'.registry.frozen = s'.registry.bare.frozen := rfl
  rw [hf, hb, h]
  split <;> rfl

/-- The default configuration stays in force as long as loggers are only used. -/
theorem hasDefault_after (op : Operation) (hop : op.isUse = true)
    (h : s.registry.HasDefault) : (s.after op).registry.HasDefault := by
  cases op with
  | getLogger context stack ticks =>
      rw [registry_after_getLogger, h.configuration]
      exact h
  | log handle call level message args => exact s.bare_eq_after_log h handle call level message args
  | install source => exact h
  | _ => cases hop

/-- Asking for a logger puts the default configuration in force, unless an event came before. -/
theorem hasDefault_after_getLogger (h : s.registry.Unconfigured) (hf : s.registry.frozen = false)
    (context : LoggerContext) (stack : Bool) (ticks : Int) :
    (s.after (.getLogger context stack ticks)).registry.HasDefault := by
  rw [registry_after_getLogger, h.eq_empty hf]
  rfl

/-- Nothing else configures a registry as long as loggers are only used. -/
theorem unconfigured_after (op : Operation) (hop : op.isUse = true) (h : s.registry.Unconfigured)
    (hn : ∀ context stack ticks, op = .getLogger context stack ticks → s.registry.frozen = true) :
    (s.after op).registry.Unconfigured := by
  cases op with
  | getLogger context stack ticks =>
      rw [registry_after_getLogger, hn context stack ticks rfl, Bool.not_true, Bool.and_false]
      exact h
  | log handle call level message args => exact s.bare_eq_after_log h handle call level message args
  | install source => exact h
  | _ => cases hop

/-- Whether a logger was asked for before the first event of a history that starts in `s`. -/
def AskedInTime (ops : List Operation) : Prop :=
  ∃ before context stack ticks after, ops = before ++ .getLogger context stack ticks :: after
    ∧ ¬ DeliveredSinceReset s before

/-- A logger is asked for in time or with the last operation, if no event came before that. -/
theorem askedInTime_append (ops : List Operation) (op : Operation) :
    s.AskedInTime (ops ++ [op])
      ↔ s.AskedInTime ops
        ∨ (∃ context stack ticks, op = .getLogger context stack ticks)
          ∧ ¬ DeliveredSinceReset s ops := by
  constructor
  · rintro ⟨before, context, stack, ticks, after, he, hn⟩
    rcases List.eq_nil_or_concat after with rfl | ⟨after, q, rfl⟩
    · obtain ⟨rfl, ho⟩ := List.append_inj' he rfl
      obtain rfl := List.head_eq_of_cons_eq ho
      exact Or.inr ⟨⟨context, stack, ticks, rfl⟩, hn⟩
    · rw [List.concat_eq_append, ← List.cons_append, ← List.append_assoc] at he
      obtain ⟨rfl, -⟩ := List.append_inj' he rfl
      exact Or.inl ⟨before, context, stack, ticks, after, rfl, hn⟩
  · rintro (⟨before, context, stack, ticks, after, rfl, hn⟩ | ⟨⟨context, stack, ticks, rfl⟩, hn⟩)
    · exact ⟨before, context, stack, ticks, after ++ [op], by simp, hn⟩
    · exact ⟨ops, context, stack, ticks, [], rfl, hn⟩

/-- As long as loggers are only used, the registry has the default configuration or none at all,
    depending on what came first. -/
theorem registry_run_of_uses (ops : List Operation) (hops : ∀ op ∈ ops, op.isUse = true)
    (h : s.registry = .empty) :
    (s.AskedInTime ops → (s.run ops).registry.HasDefault)
      ∧ (¬ s.AskedInTime ops → (s.run ops).registry.Unconfigured) := by
  induction ops using List.reverseRecOn with
  | nil =>
      refine ⟨fun ha => ?_, fun _ => ?_⟩
      · obtain ⟨before, context, stack, ticks, after, he, -⟩ := ha
        simp at he
      · rw [run_nil, h]
        rfl
  | append_singleton ops op ih =>
      obtain ⟨hin, hout⟩ := ih fun q hq => hops q (List.mem_append_left _ hq)
      have hop : op.isUse = true := hops op (by simp)
      have hfrozen : (s.run ops).registry.frozen = true ↔ DeliveredSinceReset s ops := by
        rw [frozen_run, h]
        exact or_iff_left fun hf => Bool.false_ne_true hf.1
      rw [askedInTime_append, run_append, run_cons, run_nil]
      by_cases ha : s.AskedInTime ops
      · exact ⟨fun _ => hasDefault_after _ op hop (hin ha), fun hn => absurd (Or.inl ha) hn⟩
      · have hu := hout ha
        constructor
        · rintro (ha' | ⟨⟨context, stack, ticks, rfl⟩, hd⟩)
          · exact absurd ha' ha
          · have hf := eq_false_of_ne_true (mt hfrozen.1 hd)
            exact hasDefault_after_getLogger _ hu hf context stack ticks
        · intro hn
          refine unconfigured_after _ op hop hu fun context stack ticks he => hfrozen.2 ?_
          -- otherwise this would be the logger that is asked for in time
          by_contra hd
          exact hn (Or.inr ⟨⟨context, stack, ticks, he⟩, hd⟩)

/-! ## Log calls -/

/-- What was written by the delivery of its event is what a log call writes. -/
theorem exists_wrote_log {handle : Nat} {l : Logger} (hl : s.loggers[handle]? = some l) (call : Call)
    (level : Int) (message : Value) (args : List Value) {t : Text}
    (h : ∀ env : Environment, env.cache = s.env.cache → env.zone = s.env.zone →
      ∃ o, Registry.deliver (l.log call level message args).1 ⟨env, s.registry⟩ = .ok () o
        ∧ env.Wrote o.env level t) :
    let op : Operation := .log handle call level message args
    perform op s = .ok () (s.after op) ∧ s.env.Wrote (s.after op).env level t := by
  intro op
  obtain ⟨o, ho, hw⟩ :=
    h { s.env with notices := s.env.notices ++ (l.log call level message args).2.1 } rfl rfl
  have hok := s.perform_log hl call level message args
  rw [ho] at hok
  rw [after_eq_finalState, hok]
  exact ⟨rfl, hw.output, hw.errors⟩

/-- With the default configuration a log call writes the event in the default layout, as one line, if its
    level is severe enough. -/
theorem log_of_hasDefault (h : s.registry.HasDefault) (hs : s.env.cache.Sound)
    {handle : Nat} {l : Logger} (hl : s.loggers[handle]? = some l) (call : Call) {level : Int}
    (hlevel : level ≤ Level.info) (message : Value) (args : List Value) :
    let op : Operation := .log handle call level message args
    let e := (l.log call level message args).1
    perform op s = .ok () (s.after op)
      ∧ s.env.Wrote (s.after op).env level (Layout.defaultText s.env.zone e ++ ['\n']) := by
  intro op e
  refine s.exists_wrote_log hl call level message args fun env hcache hzone => ?_
  have hel : e.level = level := l.level_log call level message args
  obtain ⟨a, ha, haudience⟩ := h.audience e.logger
  have hall := Appender.appendAll_standard ha ⟨env, e⟩ (hcache ▸ hs) (hel.symm ▸ hlevel)
  rw [Appender.writeLine_eq, env.fetch_snd_eq, hel, hzone] at hall
  exact ⟨_, by rw [Registry.deliver_eq, haudience, hall]; rfl, rfl, rfl⟩

/-- Without a configuration a log call writes nothing. -/
theorem log_of_unconfigured (h : s.registry.Unconfigured) {handle : Nat} {l : Logger}
    (hl : s.loggers[handle]? = some l) (call : Call) (level : Int) (message : Value)
    (args : List Value) :
    let op : Operation := .log handle call level message args
    perform op s = .ok () (s.after op) ∧ s.env.Wrote (s.after op).env level [] := by
  refine s.exists_wrote_log hl call level message args fun env _ _ => ?_
  refine ⟨_, by rw [Registry.deliver_eq, h.audience]; rfl, ?_, ?_⟩
  · simp [Appender.appendAll]
  · simp [Appender.appendAll]

/-! ## When the default configuration is in force -/

/-- As long as loggers are only used after the start or a reset, whatever came before it:

* no log call ends with a fault;
* an event that is at least as severe as an info is written in the default layout, as one line, exactly if
  a logger was asked for before the first event since then. It does not matter which logger is used, or
  which one it was;
* otherwise nothing at all is written for it. -/
theorem default_written_iff (zone : LocalZone) (earlier later : List Operation)
    (hstart : earlier = [] ∨ ∃ ops, earlier = ops ++ [.reset])
    (huse : ∀ op ∈ later, op.isUse = true) (handle : Nat) (l : Logger)
    (hl : (((initial zone).run earlier).run later).loggers[handle]? = some l) (call : Call)
    (level : Int) (hlevel : level ≤ Level.info) (message : Value) (args : List Value) :
    let start := (initial zone).run earlier
    let s := start.run later
    let op : Operation := .log handle call level message args
    let e := (l.log call level message args).1
    let shown := Layout.defaultText s.env.zone e
    (s.env.formatted Appender.defaultLayout e).1 = .ok shown
      ∧ perform op s = .ok () (s.after op)
      ∧ (s.env.Wrote (s.after op).env level (shown ++ ['\n']) ↔ start.AskedInTime later)
      ∧ (¬ start.AskedInTime later → s.env.Wrote (s.after op).env level []) := by
  intro start s op e shown
  have hempty : start.registry = .empty := by
    rcases hstart with rfl | ⟨ops, rfl⟩
    · rfl
    · show ((initial zone).run (ops ++ [.reset])).registry = .empty
      rw [run_append, run_cons, run_nil, registry_after_reset]
  have hsound : s.env.cache.Sound :=
    (ready_run start later (ready_run _ earlier (ready_initial zone))).sound
  have hformat : (s.env.formatted Appender.defaultLayout e).1 = .ok shown := by
    rw [Environment.formatted, Layout.format_defaultLayout ⟨s.env, e⟩ hsound]
  obtain ⟨hdefault, hnone⟩ := start.registry_run_of_uses later huse hempty
  by_cases ha : start.AskedInTime later
  · obtain ⟨hok, hw⟩ := s.log_of_hasDefault (hdefault ha) hsound hl call hlevel message args
    exact ⟨hformat, hok, iff_of_true hw ha, fun hn => absurd ha hn⟩
  · obtain ⟨hok, hw⟩ := s.log_of_unconfigured (hnone ha) hl call level message args
    refine ⟨hformat, hok, iff_of_false (fun hline => ?_) ha, fun _ => hw⟩
    -- a line has at least its end, so it is not nothing
    exact List.append_ne_nil_of_right_ne_nil _ (List.cons_ne_nil _ _) (hline.unique hw)

/-- A logger that outlived a reset logs only after a new one was asked for, so what the new one logs is
    written. -/
theorem default_written_for_new_logger :
    let call : Call := ⟨.clock ⟨⟨2024, 1, 15, by decide⟩, ⟨13, 5, 9, 7000, by decide⟩⟩, 0, []⟩
    let earlier : List Operation := [.getLogger (.named "old") false 0, .reset]
    let later : List Operation :=
      [.getLogger (.named "new") false 0, .log 0 call Level.info (.str "late") []]
    let start := (initial .universal).run earlier
    let s := start.run later
    let op : Operation := .log 1 call Level.info (.str "hi") []
    start.AskedInTime later
      ∧ perform op s = .ok () (s.after op)
      ∧ s.env.Wrote (s.after op).env Level.info "2024-01-15 13:05:09,7 [INFO] new - hi\n" := by
  intro call earlier later start s op
  have hasked : start.AskedInTime later :=
    ⟨[], .named "new", false, 0, _, rfl, fun ⟨_, _, _, he, _⟩ => by simp at he⟩
  have huse : ∀ q ∈ later, q.isUse = true := by simp [later, Operation.isUse]
  have hl : s.loggers[1]? = some ⟨"new", false, 0, 1⟩ := by decide +kernel
  let e := ((⟨"new", false, 0, 1⟩ : Logger).log call Level.info (.str "hi") []).1
  have hline : Layout.defaultText s.env.zone e ++ ['\n']
      = ("2024-01-15 13:05:09,7 [INFO] new - hi\n" : Text) := by
    decide +kernel
  obtain ⟨-, hok, hwritten, -⟩ := default_written_iff .universal earlier later
    (Or.inr ⟨[.getLogger (.named "old") false 0], rfl⟩) huse 1 _ hl call Level.info (by decide)
    (.str "hi") []
  have hw : s.env.Wrote (s.after op).env Level.info (Layout.defaultText s.env.zone e ++ ['\n']) := by
    -- nothing of the history is to be evaluated to see that this is what the theorem gives
    with_reducible exact hwritten.2 hasked
  exact ⟨hasked, hok, hline ▸ hw⟩

/-- If the old logger logs first, nothing is written for the new one, although it was asked for after
    the reset and the default configuration was never replaced. -/
theorem old_logger_silences_new_one :
    let call : Call := ⟨.clock ⟨⟨2024, 1, 15, by decide⟩, ⟨13, 5, 9, 7000, by decide⟩⟩, 0, []⟩
    let s := (initial .universal).run
      [.getLogger (.named "old") false 0, .reset, .log 0 call Level.info (.str "early") [],
        .getLogger (.named "new") false 0]
    let op : Operation := .log 1 call Level.info (.str "hi") []
    s.loggers[1]? = some ⟨"new", false, 0, 1⟩
      ∧ (s.after op).env.output = [] ∧ (s.after op).env.errors = []
      ∧ ¬ s.env.Wrote (s.after op).env Level.info "2024-01-15 13:05:09,7 [INFO] new - hi\n" := by
  intro call s op
  have hl : s.loggers[1]? = some ⟨"new", false, 0, 1⟩ := by decide +kernel
  have ho : (s.after op).env.output = [] := by decide +kernel
  have he : (s.after op).env.errors = [] := by decide +kernel
  refine ⟨hl, ho, he, fun hw => ?_⟩
  have hline := hw.output
  rw [ho, if_neg (by decide)] at hline
  exact absurd (List.append_eq_nil_iff.1 hline.symm).2 (List.cons_ne_nil _ _)

end Session
end EventLog

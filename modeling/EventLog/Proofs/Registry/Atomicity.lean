import EventLog.Proofs.Registry.Lookup
import EventLog.Proofs.Session.History

set_option autoImplicit false

/-! # Configurations that end with a fault

Configuring stores the settings first, then registers classes, then makes the appenders of loggers, and
each of these may find a fault in what it is given. What was stored before stays. So a configuration
that ends with a fault is undone by nobody, and the registry is the same afterwards only if the part of
the configuration that was read had nothing new to say. `InForce` states this of a registry and a
configuration, and `configure_fault_keeps_registry_iff` is the main statement.

A registry that was not configured before is configured afterwards in every case, and so the default
configuration is not applied when a logger is asked for (`configure_fault_drops_default`). -/

namespace EventLog

namespace Registry

/-! ## What is in force already -/

/-- The part of a configuration that is read, up to the first fault, is in force already. -/
structure InForce (r : Registry) (c : Config) : Prop where
  /-- The registry has settings, and every setting that is given is one of them. -/
  settings : ∃ o, r.configuration = some (some o)
    ∧ ((c.layout.getD .null).isSet = true → c.layout.getD .null = o.layout)
    ∧ ∀ v, c.injection = some v → v = o.injection
  /-- The names of the candidates before the first one that is refused are taken. -/
  classes : ∀ p ∈ (upToFault accept (candidates c.appenders)).1, r.classes.has p.1 = true
  /-- If no candidate is refused, the last definition of each tag, before the first malformed one,
      asks for the appenders that the tag has. -/
  appenders : ∀ o, r.configuration = some (some o) →
    (upToFault accept (candidates c.appenders)).2 = none →
    ∀ tag as, lastFor (entries o r.classList c.loggers).1 tag = some as →
      r.appenders? tag = some as

/-- The names of classes are taken once they are registered. -/
theorem has_classes_addClasses (r : Registry) (ps : List (Text × AppenderClass)) :
    ∀ p ∈ ps, (r.addClasses ps).classes.has p.1 = true := by
  intro p hp
  -- the class is registered at the latest when its turn comes, and stays
  obtain ⟨before, after, rfl⟩ := List.append_of_mem hp
  have hsplit : r.addClasses (before ++ p :: after)
      = ((r.addClasses before).addClass p.1 p.2).addClasses after := by
    rw [addClasses, List.foldl_append]
    rfl
  obtain ⟨new, hnew⟩ :=
    classes_prefix_addClasses ((r.addClasses before).addClass p.1 p.2) after
  have hget := get?_classes_addClass (r.addClasses before) p.1 p.2
  rw [hsplit, ← hnew, Table.has, Table.get?_append_of_get? _ _ _ _ hget]
  rfl

/-- Classes leave a registry as it is exactly if all of their names are taken. -/
theorem addClasses_eq_self_iff (r : Registry) (ps : List (Text × AppenderClass)) :
    r.addClasses ps = r ↔ ∀ p ∈ ps, r.classes.has p.1 = true := by
  constructor
  · intro h p hp
    have hhas := has_classes_addClasses r ps p hp
    rw [h] at hhas
    exact hhas
  · intro h
    induction ps with
    | nil => rfl
    | cons p ps ih =>
        rw [addClasses_cons, addClass_of_has r p.2 (h p (by simp))]
        exact ih fun q hq => h q (List.mem_cons_of_mem _ hq)

/-- Settings stay as they are exactly if each one that is given is one of them. -/
theorem settings_eq_self_iff (o : Configuration) (c : Config) :
    Registry.settings (some o) c = o
      ↔ ((c.layout.getD .null).isSet = true → c.layout.getD .null = o.layout)
        ∧ ∀ v, c.injection = some v → v = o.injection := by
  have hlayout : (Registry.settings (some o) c).layout = o.layout
      ↔ ((c.layout.getD .null).isSet = true → c.layout.getD .null = o.layout) := by
    rw [Registry.settings]
    by_cases hl : (c.layout.getD .null).isSet = true
    · rw [if_pos hl]
      exact ⟨fun h _ => h, fun h => h hl⟩
    · rw [if_neg hl]
      exact ⟨fun _ h => absurd h hl, fun _ => rfl⟩
  have hinjection : (Registry.settings (some o) c).injection = o.injection
      ↔ ∀ v, c.injection = some v → v = o.injection := by
    rw [Registry.settings]
    cases c.injection with
    | none => simp
    | some w => exact ⟨fun h v hv => Option.some.inj hv ▸ h, fun h => h w rfl⟩
  rw [← hlayout, ← hinjection]
  constructor
  · intro h
    rw [h]
    exact ⟨rfl, rfl⟩
  · rintro ⟨h₁, h₂⟩
    cases o
    exact (Configuration.mk.injEq ..).mpr ⟨h₁, h₂⟩

/-- The registry has settings after it was configured, with or without a fault. -/
theorem configuration_configured (r : Registry) (c : Config) :
    (r.configured c).1.configuration
      = some (some (Registry.settings r.configuration.join c)) := by
  unfold configured
  dsimp only
  split
  · rw [addClasses_eq]
  · rw [withEntries_eq, addClasses_eq]

/-! If the settings are in force already, configuring only registers classes, and enters appenders if
no candidate is refused. -/

section

variable {r : Registry} {c : Config} {o : Configuration} (ho : r.configuration = some (some o))
  (hs : Registry.settings (some o) c = o)

include ho hs

theorem configured_of_refused {f : Fault}
    (hf : (upToFault accept (candidates c.appenders)).2 = some f) :
    r.configured c = (r.addClasses (upToFault accept (candidates c.appenders)).1, some f) := by
  have hr : { r with configuration := some (some o) } = r := by
    rw [← ho]
  simp only [configured, ho, Option.join_some, hs, hr, hf]

theorem configured_of_accepted
    (hf : (upToFault accept (candidates c.appenders)).2 = none) :
    let r' := r.addClasses (upToFault accept (candidates c.appenders)).1
    r.configured c
      = (r'.withEntries (entries o r'.classList c.loggers).1,
          (entries o r'.classList c.loggers).2) := by
  have hr : { r with configuration := some (some o) } = r := by
    rw [← ho]
  simp only [configured, ho, Option.join_some, hs, hr, hf]

end

/-- Configuring leaves a registry as it is exactly if all that is read of the configuration is in
    force already. -/
theorem configured_eq_self_iff {r : Registry} (h : r.WellFormed) (c : Config) :
    (r.configured c).1 = r ↔ r.InForce c := by
  constructor
  · intro he
    have hc := configuration_configured r c
    rw [he] at hc
    obtain ⟨o, ho⟩ : ∃ o, r.configuration = some (some o) := ⟨_, hc⟩
    have hs : Registry.settings (some o) c = o := by
      rw [ho, Option.join_some] at hc
      exact (Option.some.inj (Option.some.inj hc)).symm
    have hset := (settings_eq_self_iff o c).1 hs
    cases hf : (upToFault accept (candidates c.appenders)).2 with
    | some f =>
        rw [configured_of_refused ho hs hf] at he
        refine ⟨⟨o, ho, hset⟩, (addClasses_eq_self_iff r _).1 he, fun o' _ hf' => ?_⟩
        rw [hf] at hf'
        cases hf'
    | none =>
        rw [configured_of_accepted ho hs hf] at he
        -- entries leave the classes alone, so these are the same as before already
        have hcl := congrArg Registry.classes he
        dsimp only at hcl
        rw [classes_withEntries] at hcl
        have ha : r.addClasses (upToFault accept (candidates c.appenders)).1 = r := by
          rw [addClasses_eq, hcl]
        rw [ha] at he
        refine ⟨⟨o, ho, hset⟩, (addClasses_eq_self_iff r _).1 ha, fun o' ho' _ => ?_⟩
        obtain rfl : o = o' := Option.some.inj (Option.some.inj (ho.symm.trans ho'))
        exact (withEntries_eq_self_iff h _).1 he
  · rintro ⟨⟨o, ho, hset⟩, hclasses, happenders⟩
    have hs := (settings_eq_self_iff o c).2 hset
    have ha := (addClasses_eq_self_iff r _).2 hclasses
    cases hf : (upToFault accept (candidates c.appenders)).2 with
    | some f =>
        rw [configured_of_refused ho hs hf]
        exact ha
    | none =>
        rw [configured_of_accepted ho hs hf, ha]
        exact (withEntries_eq_self_iff h _).2 (happenders o ho hf)

end Registry

namespace Session

/-! ## The session after a configuration that ended with a fault -/

/-- Asking for a logger changes nothing in a registry that is configured. -/
theorem registry_after_getLogger_of_configured (s : Session) (context : LoggerContext)
    (stack : Bool) (ticks : Int) (h : s.registry.configuration.isSome = true) :
    (s.after (.getLogger context stack ticks)).registry = s.registry := by
  rw [registry_after_getLogger, Option.isNone_eq_false_iff.2 h]
  rfl

theorem perform_configure (s : Session) (c : Config) (h : s.registry.frozen = false) :
    perform (.configure c) s = ended (s.registry.configured c).2 (s.after (.configure c)) := by
  obtain ⟨env, he⟩ := Registry.configure_eq c s.office h
  rw [after_eq_finalState, perform, inOffice, he]
  show _ = ended (s.office.registry.configured c).2 _
  cases (s.office.registry.configured c).2 <;> rfl

/-- A configuration that ends with a fault before the first delivery leaves the registry as it is if
    and only if all that was read of it is in force already. In this case the next logger is handed
    out as if there had been no such configuration. In a registry that was not configured before, it
    never is in force, and the default configuration is not applied any more. -/
theorem configure_fault_keeps_registry_iff (zone : LocalZone) (ops : List Operation)
    (h : ¬ DeliveredSinceReset (initial zone) ops) (c : Config) (f : Fault) (s' : Session)
    (hf : perform (.configure c) ((initial zone).run ops) = .error f s') :
    let s := (initial zone).run ops
    (s'.registry = s.registry ↔ s.registry.InForce c)
      ∧ (s.registry.InForce c → ∀ (context : LoggerContext) (stack : Bool) (ticks : Int),
          (s'.after (.getLogger context stack ticks)).registry
              = (s.after (.getLogger context stack ticks)).registry
            ∧ (s'.after (.getLogger context stack ticks)).loggers
              = (s.after (.getLogger context stack ticks)).loggers)
      ∧ (s.registry.configuration = none →
          ¬ s.registry.InForce c
            ∧ ∀ (context : LoggerContext) (stack : Bool) (ticks : Int),
              (s'.after (.getLogger context stack ticks)).registry = s'.registry) := by
  intro s
  have hs : s' = s.after (.configure c) := by
    rw [after_eq_finalState, hf]
    rfl
  have hfrozen : ¬ s.registry.frozen = true := fun hd => h ((frozen_run_iff zone ops).1 hd)
  have hr : s'.registry = (s.registry.configured c).1 := by
    rw [hs, registry_after_configure, if_neg hfrozen]
  have hl : s'.loggers = s.loggers := by
    rw [hs, loggers_after_configure]
  have hw : s.registry.WellFormed := wellFormed_run (initial zone) ops Registry.wellFormed_empty
  have hiff : s'.registry = s.registry ↔ s.registry.InForce c := by
    rw [hr]
    exact Registry.configured_eq_self_iff hw c
  have hconf : s'.registry.configuration.isSome = true := by
    rw [hr, Registry.configuration_configured]
    rfl
  refine ⟨hiff, ?_, ?_⟩
  · intro hin context stack ticks
    have he := hiff.2 hin
    rw [registry_after_getLogger, registry_after_getLogger, loggers_after_getLogger,
      loggers_after_getLogger, he, hl]
    exact ⟨rfl, rfl⟩
  · intro hnone
    refine ⟨fun hin => ?_, fun context stack ticks => ?_⟩
    · obtain ⟨o, ho, -⟩ := hin.settings
      rw [hnone] at ho
      cases ho
    · exact registry_after_getLogger_of_configured s' _ _ _ hconf

/-- The registry of a session in which nothing but a logger was asked for. -/
theorem registry_of_default :
    ((initial .universal).run [.getLogger .missing false 0]).registry
      = (Registry.empty.configured Registry.defaultConfig).1 := by
  rw [run_cons, run_nil, registry_after_getLogger]
  rfl

/-- With the default configuration in force, a list of loggers that is none changes nothing. -/
theorem configure_fault_keeps_default :
    let s := (initial .universal).run [.getLogger .missing false 0]
    let c : Config := { Config.empty with loggers := some (.str "main") }
    perform (.configure c) s = .error .loggersNotAList (s.after (.configure c))
      ∧ (s.after (.configure c)).registry = s.registry := by
  have hr := registry_of_default
  have hiff := configure_fault_keeps_registry_iff .universal [.getLogger .missing false 0]
  have hfrozen := frozen_run_iff .universal [.getLogger .missing false 0]
  -- nothing else is known of the session, so that no step evaluates it
  generalize (initial .universal).run [.getLogger .missing false 0] = s at hr hiff hfrozen
  intro s c
  have hf : s.registry.frozen = false := by
    rw [hr, Registry.frozen_configured]
    rfl
  have hd : ¬ DeliveredSinceReset (initial .universal) [.getLogger .missing false 0] := by
    rw [← hfrozen, hf]
    exact Bool.false_ne_true
  have hp : perform (.configure c) s = .error .loggersNotAList (s.after (.configure c)) := by
    rw [perform_configure s c hf, hr]
    rfl
  have hin : s.registry.InForce c := by
    rw [hr]
    refine ⟨⟨⟨.str Appender.defaultLayout, .bool true⟩, rfl, fun h => absurd h (by decide),
      fun v hv => by cases hv⟩, by decide, ?_⟩
    intro o _ _ tag as hl
    cases hl
  exact ⟨hp, (hiff hd c _ _ hp).1.2 hin⟩

/-- In a registry that nothing was asked of, the same configuration has the effect that no logger has
    appenders, where the default configuration would give the main tag a console. -/
theorem configure_fault_drops_default :
    let s := initial .universal
    let s' := s.after (.configure { Config.empty with loggers := some (.str "main") })
    ¬ DeliveredSinceReset s []
      ∧ perform (.configure { Config.empty with loggers := some (.str "main") }) s
          = .error .loggersNotAList s'
      ∧ s'.registry ≠ s.registry
      ∧ (s'.after (.getLogger .missing false 0)).registry.appendersOf (.str Registry.mainTag) = []
      ∧ (s.after (.getLogger .missing false 0)).registry.appendersOf (.str Registry.mainTag)
          = [Appender.ofClass Appender.consoleClass Level.info Appender.defaultLayout] := by
  intro s s'
  have hd : ¬ DeliveredSinceReset s [] := by
    rw [← frozen_run_iff]
    exact Bool.false_ne_true
  have hr : s'.registry = (Registry.empty.configured
      { Config.empty with loggers := some (.str "main") }).1 := by
    rw [registry_after_configure]
    rfl
  have hconf : s'.registry.configuration.isSome = true := by
    rw [hr, Registry.configuration_configured]
    rfl
  refine ⟨hd, perform_configure s _ rfl, ?_, ?_, ?_⟩
  · intro he
    rw [he] at hconf
    cases hconf
  · rw [registry_after_getLogger_of_configured s' _ _ _ hconf, hr]
    rfl
  · rw [registry_after_getLogger]
    rfl

end Session
end EventLog

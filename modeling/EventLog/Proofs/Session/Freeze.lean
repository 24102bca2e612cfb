import EventLog.Proofs.Registry.Invariant
import EventLog.Proofs.Session.History

set_option autoImplicit false

/-! # After the first delivery

A delivery freezes the registry. Until the next reset an operation can do only one of three things to
it (`registry_after_of_frozen`): a log call changes what appenders keep, setting a level changes levels,
and a class may be registered if the configuration allows it. The settings, the tags and the appenders
with their layouts stay, and nothing that is asked for in a configuration can end with a fault, since
none of it is read. `configuration_freeze` is the main statement. -/

namespace EventLog

namespace Registry

/-! ## Looking at appenders -/

/-- The loggers with a function applied to each appender. -/
def view {β : Type} (f : Appender → β) (r : Registry) : Table Key (List β) :=
  r.loggers.mapValues (·.map f)

/-- What appenders keep is not seen by a function that does not look at it. -/
theorem view_bare {β : Type} (f : Appender → β) (hf : ∀ a, f a.bare = f a) (r : Registry) :
    r.bare.view f = r.view f := by
  have hc : ∀ as : List Appender, (as.map Appender.bare).map f = as.map f := by
    intro as
    rw [List.map_map]
    exact List.map_congr_left fun a _ => hf a
  rw [view, view, bare, Table.mapValues, Table.mapValues, Table.mapValues, List.map_map]
  exact List.map_congr_left fun p _ => Prod.ext rfl (hc p.2)

/-- Levels are not seen by a function that does not look at them. -/
theorem view_leveled {β : Type} (f : Appender → β)
    (hf : ∀ a (level : Int), f { a with level := level } = f a) (r : Registry)
    (level tag : Value) : (r.leveled level tag).view f = r.view f := by
  have hs : ∀ (l : Int) (as : List Appender), (setLevels l as).map f = as.map f := by
    intro l as
    rw [setLevels, List.map_map]
    exact List.map_congr_left fun a _ => hf a l
  have hw : ∀ (l : Int) (tag : Option Key), (r.withLevel l tag).view f = r.view f := by
    intro l tag
    obtain ⟨chosen, hl⟩ := loggers_withLevel r l tag
    rw [view, hl, view, Table.mapValues, Table.mapValues, List.map_map]
    refine List.map_congr_left fun p _ => Prod.ext rfl ?_
    show (if chosen p.1 then setLevels l p.2 else p.2).map f = p.2.map f
    split
    · exact hs l p.2
    · rfl
  unfold leveled
  split
  · split
    · split
      · exact hw _ _
      · rfl
    · exact hw _ _
  · rfl

end Registry

namespace Session

/-! ## One operation -/

/-- Whether the operation is a log call. -/
def Operation.isLog : Operation → Bool
  | .log .. => true
  | _ => false

/-- Whether the operation sets a level. -/
def Operation.isSetLogLevel : Operation → Bool
  | .setLogLevel .. => true
  | _ => false

/-- What an operation other than a reset can do to a frozen registry. -/
theorem registry_after_of_frozen (s : Session) (op : Operation)
    (h : s.registry.frozen = true) (hr : op ≠ .reset) :
    (s.after op).registry = s.registry
      ∨ (s.registry.refusesClasses = false
          ∧ ∃ classes, (s.after op).registry = { s.registry with classes := classes })
      ∨ (op.isLog = true ∧ (s.after op).registry.bare = s.registry.bare)
      ∨ (op.isSetLogLevel = true
          ∧ ∃ level tag, (s.after op).registry = s.registry.leveled level tag) := by
  cases op with
  | configure c =>
      rw [registry_after_configure, if_pos h]
      exact Or.inl rfl
  | misconfigure =>
      rw [registry_after_misconfigure, if_pos h]
      exact Or.inl rfl
  | addAppender candidate =>
      rw [registry_after_addAppender]
      split
      · exact Or.inl rfl
      · rename_i hc
        split
        · exact Or.inr (Or.inl ⟨eq_false_of_ne_true hc, _, Registry.addClass_eq _ _ _⟩)
        · exact Or.inl rfl
  | getLogger context stack ticks =>
      rw [registry_after_getLogger, h, Bool.not_true, Bool.and_false]
      exact Or.inl rfl
  | log handle call level message args =>
      refine Or.inr (Or.inr (Or.inl ⟨rfl, ?_⟩))
      -- the delivery freezes a registry that is frozen already
      have hb : { s.registry.bare with frozen := true } = s.registry.bare := by
        rw [← h]
        rfl
      rw [bare_registry_after_log, hb, ite_self]
  | setLogLevel level tag =>
      exact Or.inr (Or.inr (Or.inr ⟨rfl, level, tag, registry_after_setLogLevel s level tag⟩))
  | install source => exact Or.inl rfl
  | reset => exact absurd rfl hr

theorem frozen_after_of_frozen (s : Session) (op : Operation) (h : s.registry.frozen = true)
    (hr : op ≠ .reset) : (s.after op).registry.frozen = true := by
  rw [frozen_after s op hr, h, Bool.true_or]

theorem configuration_after_of_frozen (s : Session) (op : Operation)
    (h : s.registry.frozen = true) (hr : op ≠ .reset) :
    (s.after op).registry.configuration = s.registry.configuration := by
  rcases registry_after_of_frozen s op h hr with he | ⟨-, classes, he⟩ | ⟨-, he⟩ | ⟨-, level, tag, he⟩
  · rw [he]
  · rw [he]
  · have hc : (s.after op).registry.bare.configuration = s.registry.bare.configuration := by
      rw [he]
    exact hc
  · rw [he, Registry.leveled_eq]

/-- A function on appenders sees an operation on a frozen registry only if it looks at what appenders
    keep, and the operation is a log call, or if it looks at levels, and the operation sets one. -/
theorem view_after_of_frozen {β : Type} (f : Appender → β) (s : Session) (op : Operation)
    (h : s.registry.frozen = true) (hr : op ≠ .reset)
    (hlog : op.isLog = true → ∀ a, f a.bare = f a)
    (hset : op.isSetLogLevel = true → ∀ a (level : Int), f { a with level := level } = f a) :
    (s.after op).registry.view f = s.registry.view f := by
  rcases registry_after_of_frozen s op h hr with
    he | ⟨-, classes, he⟩ | ⟨hl, he⟩ | ⟨hs, level, tag, he⟩
  · rw [he]
  · rw [he]
    rfl
  · have hf := hlog hl
    rw [← Registry.view_bare f hf, he, Registry.view_bare f hf]
  · rw [he, Registry.view_leveled f (hset hs)]

/-- If no classes are accepted any more, this stays so, and the classes stay. -/
theorem classes_after_of_refuses (s : Session) (op : Operation)
    (h : s.registry.refusesClasses = true) (hr : op ≠ .reset) :
    (s.after op).registry.refusesClasses = true
      ∧ (s.after op).registry.classes = s.registry.classes := by
  have hf : s.registry.frozen = true := (Bool.and_eq_true_iff.1 h).1
  constructor
  · rw [Registry.refusesClasses, configuration_after_of_frozen s op hf hr,
      frozen_after_of_frozen s op hf hr]
    rw [Registry.refusesClasses, hf] at h
    exact h
  · rcases registry_after_of_frozen s op hf hr with
      he | ⟨hc, -⟩ | ⟨-, he⟩ | ⟨-, level, tag, he⟩
    · rw [he]
    · -- a class is registered only if classes are accepted
      rw [hc] at h
      cases h
    · have hc : (s.after op).registry.bare.classes = s.registry.bare.classes := by
        rw [he]
      exact hc
    · rw [he, Registry.leveled_eq]

/-! ## Histories -/

/-- Once an event was delivered, and until the next reset:

    1. Configuring gives a notice and does nothing else, with whatever it is called.
    2. The settings, the tags, and the appenders of each tag with their classes, order and layouts
       stay. Nothing but a log call changes what appenders keep.
    3. Nothing but the setting of a level changes levels.
    4. If the settings do not allow it, no class is added, and adding one gives a notice and does
       nothing else, whatever is given. -/
theorem configuration_freeze (zone : LocalZone) (before later : List Operation)
    (hd : DeliveredSinceReset (initial zone) before) (hn : ∀ op ∈ later, op ≠ .reset) :
    let s := (initial zone).run before
    let t := s.run later
    ((∀ c, perform (.configure c) t = .ok () { t with env := t.env.report .alreadyInUse })
        ∧ perform .misconfigure t = .ok () { t with env := t.env.report .alreadyInUse })
      ∧ (t.registry.configuration = s.registry.configuration
        ∧ t.registry.view (fun a => (a.cls, a.layout))
            = s.registry.view (fun a => (a.cls, a.layout))
        ∧ ∀ op, op ≠ .reset → op.isLog = false →
            (t.after op).registry.view (fun a => (a.cls, a.layout, a.messages))
              = t.registry.view (fun a => (a.cls, a.layout, a.messages)))
      ∧ (∀ op, op ≠ .reset → op.isSetLogLevel = false →
          (t.after op).registry.view Appender.level = t.registry.view Appender.level)
      ∧ ∀ o, s.registry.configuration = some (some o) → o.injection.isSet = false →
          t.registry.classes = s.registry.classes
            ∧ ∀ candidate, perform (.addAppender candidate) t
                = .ok () { t with env := t.env.report .injectionRefused } := by
  intro s t
  have hs : s.registry.frozen = true := (frozen_run_iff zone before).2 hd
  have ht : t.registry.frozen = true := (frozen_run s later).2 (Or.inr ⟨hs, hn⟩)
  have hconf : t.registry.configuration = s.registry.configuration :=
    run_const (·.registry.frozen = true) (·.registry.configuration)
      (fun s op h hr =>
        ⟨frozen_after_of_frozen s op h hr, configuration_after_of_frozen s op h hr⟩)
      s later hs hn
  refine ⟨⟨?_, ?_⟩, ⟨hconf, ?_, ?_⟩, ?_, ?_⟩
  · intro c
    rw [perform, inOffice, Registry.configure_of_frozen c t.office ht]
    rfl
  · rw [perform, inOffice, Registry.misconfigure_of_frozen t.office ht]
    rfl
  · exact run_const (·.registry.frozen = true) (·.registry.view fun a => (a.cls, a.layout))
      (fun s op h hr =>
        ⟨frozen_after_of_frozen s op h hr,
          view_after_of_frozen _ s op h hr (fun _ _ => rfl) fun _ _ _ => rfl⟩)
      s later hs hn
  · intro op hr hl
    refine view_after_of_frozen _ t op ht hr (fun hl' => ?_) fun _ _ _ => rfl
    rw [hl] at hl'
    cases hl'
  · intro op hr hl
    refine view_after_of_frozen _ t op ht hr (fun _ _ => rfl) fun hl' => ?_
    rw [hl] at hl'
    cases hl'
  · intro o ho hi
    have href : ∀ r : Registry, r.frozen = true → r.configuration = some (some o) →
        r.refusesClasses = true := by
      intro r hf hc
      rw [Registry.refusesClasses, hf, hc, Option.join_some, Bool.true_and]
      simp [hi]
    refine ⟨?_, fun candidate => ?_⟩
    · exact run_const (·.registry.refusesClasses = true) (·.registry.classes)
        (fun s op h hr => classes_after_of_refuses s op h hr) s later (href _ hs ho) hn
    · rw [perform, inOffice, Registry.addAppender_of_refuses candidate t.office
        (href _ ht (hconf.trans ho))]
      rfl

/-- Once a logger has written an event, and a level was set after that, neither a configuration nor a
    class is accepted, if the first configuration asked for this. -/
theorem configuration_freeze_after_event :
    let before : List Operation :=
      [.configure { Config.empty with injection := some (.bool false), loggers := some (.list []) },
        .getLogger .missing false 0,
        .log 0 ⟨.millis 0, 0, []⟩ Level.info (.str "started") []]
    let t := ((initial .universal).run before).run [.setLogLevel (.str "debug") .null]
    DeliveredSinceReset (initial .universal) before
      ∧ (∀ c, perform (.configure c) t = .ok () { t with env := t.env.report .alreadyInUse })
      ∧ ∀ candidate, perform (.addAppender candidate) t
          = .ok () { t with env := t.env.report .injectionRefused } := by
  intro before t
  have hd := deliveredSinceReset_of_new_logger (initial .universal) [.configure
    { Config.empty with injection := some (.bool false), loggers := some (.list []) }]
    .missing false 0 ⟨.millis 0, 0, []⟩ Level.info (.str "started") []
  rw [run_cons, run_nil, loggers_after_configure] at hd
  have hc : ((initial .universal).run before).registry.configuration
      = some (some ⟨.str Appender.defaultLayout, .bool false⟩) := by
    simp only [before, run_cons, run_nil]
    rw [configuration_after_log, registry_after_getLogger, registry_after_configure]
    rfl
  obtain ⟨⟨hconfigure, -⟩, -, -, hadd⟩ := configuration_freeze .universal before
    [.setLogLevel (.str "debug") .null] hd (by simp)
  exact ⟨hd, hconfigure, (hadd _ hc rfl).2⟩

end Session
end EventLog

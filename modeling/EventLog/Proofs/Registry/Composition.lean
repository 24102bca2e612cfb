import EventLog.Proofs.Registry.Normalization

set_option autoImplicit false

/-! # Configurations in parts and twice

Before the first delivery a configuration may be given in parts: two lists of definitions one after the
other, each with the same other settings, lead to the same registry and to the same fault as one list
that holds both (`configured_append`). The second time the settings are in force already and the names of
the classes are taken, so that nothing but the definitions is read again. For the same reason giving a
configuration twice is the same as giving it once, also if it ends with a fault (`configured_configured`),
where it counts that of several definitions of a tag only the last one is left to be seen.

What an accepted configuration leaves at each tag is `appenders?_configured`: one appender of each class
with the level and the layout of the last definition of this tag, and what was there before if there is no
definition of it. The main statement is `configure_composes`. -/

namespace EventLog

/-- The configuration with these definitions of loggers. -/
def Config.withLoggers (c : Config) (ds : List Value) : Config :=
  { c with loggers := some (.list ds) }

/-! ## Levels and lists -/

/-- With a default there always is a level, if there is no fault. -/
theorem Level.exists_of_ofValue {default : Level} {v : Value} {level : Option Level}
    (h : ofValue (some default) v = .ok level) : ∃ l, level = some l := by
  rw [ofValue_eq_map] at h
  cases hv : ofValue none v with
  | error f =>
      rw [hv] at h
      cases h
  | ok l =>
      rw [hv] at h
      obtain rfl := Except.ok.inj h
      cases l <;> exact ⟨_, rfl⟩

/-- Searches that tell related items alike find related items. -/
theorem find?_of_forall₂ {α β : Type} {R : α → β → Prop} {p : α → Bool} {q : β → Bool}
    {as : List α} {bs : List β} (h : List.Forall₂ R as bs) (hpq : ∀ a b, R a b → p a = q b) :
    Option.Rel R (as.find? p) (bs.find? q) := by
  induction h with
  | nil => exact .none
  | cons hab h ih =>
      rw [List.find?_cons, List.find?_cons, hpq _ _ hab]
      split
      · exact .some hab
      · exact ih

namespace Registry

/-! ## The second time -/

/-- The registry with the settings of a configuration and with the classes that are registered up to the
    first fault, before any definition is read. -/
def registered (r : Registry) (c : Config) : Registry :=
  { r with configuration := some (some (Registry.settings r.configuration.join c)) }.addClasses
    (upToFault accept (candidates c.appenders)).1

theorem configured_eq (r : Registry) (c : Config) :
    r.configured c
      = match (upToFault accept (candidates c.appenders)).2 with
        | some f => (r.registered c, some f)
        | none =>
            let es := entries (Registry.settings r.configuration.join c) (r.registered c).classList
              c.loggers
            ((r.registered c).withEntries es.1, es.2) :=
  rfl

theorem appenders?_registered (r : Registry) (c : Config) (tag : Key) :
    (r.registered c).appenders? tag = r.appenders? tag := by
  rw [registered, addClasses_eq]
  rfl

theorem classList_withEntries (r : Registry) (es : List (Key × List Appender)) :
    (r.withEntries es).classList = r.classList := by
  rw [classList, classes_withEntries, classList]

/-- Settings that are given a second time are in force. -/
theorem settings_settings (old : Option Configuration) (c : Config) :
    Registry.settings (some (Registry.settings old c)) c = Registry.settings old c := by
  refine (settings_eq_self_iff _ c).2 ⟨fun hl => ?_, fun v hv => ?_⟩
  · exact (if_pos hl).symm
  · show v = c.injection.getD _
    rw [hv]
    rfl

/-- Whatever definitions were read in between, the same settings come of a configuration the second
    time. -/
theorem settings_withEntries_registered (r : Registry) (c : Config)
    (es : List (Key × List Appender)) :
    Registry.settings ((r.registered c).withEntries es).configuration.join c
      = Registry.settings r.configuration.join c := by
  rw [withEntries_eq, registered, addClasses_eq]
  exact settings_settings _ c

/-- The second time there is nothing to be registered. -/
theorem registered_withEntries_registered (r : Registry) (c : Config)
    (es : List (Key × List Appender)) :
    ((r.registered c).withEntries es).registered c = (r.registered c).withEntries es := by
  have hc : ((r.registered c).withEntries es).configuration
      = some (some (Registry.settings r.configuration.join c)) := by
    rw [withEntries_eq, registered, addClasses_eq]
  have hr : { (r.registered c).withEntries es with
      configuration := some (some (Registry.settings r.configuration.join c)) }
      = (r.registered c).withEntries es := by
    rw [← hc]
  rw [registered, settings_withEntries_registered, hr]
  refine (addClasses_eq_self_iff _ _).2 ?_
  rw [classes_withEntries]
  exact has_classes_addClasses _ _

/-- Appenders that are entered a second time are there. -/
theorem withEntries_withEntries {r : Registry} {es : List (Key × List Appender)}
    (h : (r.withEntries es).WellFormed) : (r.withEntries es).withEntries es = r.withEntries es := by
  refine (withEntries_eq_self_iff h es).2 fun tag as hl => ?_
  rw [appenders?_withEntries, hl]
  rfl

/-- Settings and classes do not depend on the definitions. -/
theorem configured_withLoggers (r : Registry) (c : Config) (ds : List Value) :
    r.configured (c.withLoggers ds)
      = match (upToFault accept (candidates c.appenders)).2 with
        | some f => (r.registered c, some f)
        | none =>
            let es := upToFault
              (entry (Registry.settings r.configuration.join c) (r.registered c).classList) ds
            ((r.registered c).withEntries es.1, es.2) :=
  rfl

/-- Two lists of definitions, one after the other, are read like one list that holds both. -/
theorem configured_append (r : Registry) (c : Config) (as bs : List Value) :
    r.configured (c.withLoggers (as ++ bs))
      = match r.configured (c.withLoggers as) with
        | (r', none) => r'.configured (c.withLoggers bs)
        | (r', some f) => (r', some f) := by
  rw [configured_withLoggers, configured_withLoggers]
  cases hf : (upToFault accept (candidates c.appenders)).2 with
  | some f => rfl
  | none =>
      dsimp only
      rw [upToFault_append]
      cases (upToFault
        (entry (Registry.settings r.configuration.join c) (r.registered c).classList) as).2 with
      | some f => rfl
      | none =>
          dsimp only
          rw [configured_withLoggers, hf, registered_withEntries_registered,
            settings_withEntries_registered, classList_withEntries, withEntries, List.foldl_append]
          rfl

/-- A configuration that is given a second time changes nothing and ends in the same way. -/
theorem configured_configured {r : Registry} (h : r.WellFormed) (c : Config) :
    (r.configured c).1.configured c = r.configured c := by
  have hw := h.configured c
  rw [configured_eq] at hw ⊢
  cases hf : (upToFault accept (candidates c.appenders)).2 with
  | some f =>
      have hr : (r.registered c).registered c = r.registered c :=
        registered_withEntries_registered r c []
      dsimp only
      rw [configured_eq, hf, hr]
  | none =>
      rw [hf] at hw
      dsimp only at hw ⊢
      rw [configured_eq, hf, registered_withEntries_registered, settings_withEntries_registered,
        classList_withEntries]
      dsimp only
      rw [withEntries_withEntries hw]

/-! ## The last definition of a tag -/

/-- Whether a value is a definition of the tag, however this is spelled. -/
def defines (tag : Key) : Value → Bool
  | .map es => (tagOf es).toKey?.any (·.same tag)
  | _ => false

/-- The last definition of a tag. -/
def lastDefinition (ds : List Value) (tag : Key) : Option Value :=
  ds.reverse.find? (defines tag)

/-- The tag has one appender of each class, in order, with the level and the layout of the definition. A
    level that is missing is that of errors, and a layout that is missing is that of the settings. -/
def Follows (r : Registry) (tag : Key) (d : Value) : Prop :=
  ∃ (o : Configuration) (es : Entries) (level : Level) (as : List Appender),
    r.configuration = some (some o) ∧ d = .map es
      ∧ Level.ofValue (some Level.error) ((es.get? Config.levelKey).getD .null) = .ok (some level)
      ∧ r.appenders? tag = some as
      ∧ as.map (·.cls) = r.classList
      ∧ ∀ a ∈ as, a.level = level ∧ .str a.layout = layoutOf es o

theorem defines_of_entry {settings : Configuration} {classes : List AppenderClass} {d : Value}
    {p : Key × List Appender} (h : entry settings classes d = .ok p) (tag : Key) :
    defines tag d = p.1.same tag := by
  obtain ⟨es, level, rfl, -, -, ht⟩ := parts_of_entry h
  rw [defines, ht]
  rfl

/-- Appenders are made with the level and the layout that is asked for, one of each class. -/
theorem parts_of_made {level : Int} {layout : Value} {classes : List AppenderClass}
    {as : List Appender} (h : made level layout classes = .ok as) :
    as.map (·.cls) = classes ∧ ∀ a ∈ as, a.level = level ∧ .str a.layout = layout := by
  cases layout with
  | str t =>
      rw [made_str] at h
      obtain rfl := Except.ok.inj h
      refine ⟨?_, fun a ha => ?_⟩
      · rw [List.map_map]
        exact List.map_id classes
      · obtain ⟨c, -, rfl⟩ := List.mem_map.1 ha
        exact ⟨rfl, rfl⟩
  | _ =>
      -- without a text there is something to be made only if there are no classes
      cases classes with
      | nil =>
          obtain rfl := Except.ok.inj h
          simp
      | cons c rest => cases h

/-- A configuration that is accepted has a list of definitions, and each of them asks for something. -/
theorem exists_of_accepted {r : Registry} {c : Config} (h : (r.configured c).2 = none) :
    ∃ ds es, c.loggers = some (.list ds)
      ∧ List.Forall₂ (fun d p => entry (Registry.settings r.configuration.join c)
          (r.registered c).classList d = .ok p) ds es
      ∧ (r.configured c).1 = (r.registered c).withEntries es := by
  rw [configured_eq] at h ⊢
  cases hf : (upToFault accept (candidates c.appenders)).2 with
  | some f =>
      rw [hf] at h
      cases h
  | none =>
      rw [hf] at h
      dsimp only at h ⊢
      unfold entries at h
      split at h
      · rename_i ds hds
        rw [hds]
        exact ⟨ds, _, rfl, forall₂_of_upToFault h, rfl⟩
      · cases h

/-- What a configuration that is accepted leaves at each tag. -/
theorem appenders?_configured {r : Registry} {c : Config} (h : (r.configured c).2 = none) :
    ∃ ds, c.loggers = some (.list ds)
      ∧ ∀ tag, match lastDefinition ds tag with
        | none => (r.configured c).1.appenders? tag = r.appenders? tag
        | some d => (r.configured c).1.Follows tag d := by
  obtain ⟨ds, es, hds, hall, hr⟩ := exists_of_accepted h
  refine ⟨ds, hds, fun tag => ?_⟩
  have hget : (r.configured c).1.appenders? tag
      = ((es.reverse.find? (·.1.same tag)).map (·.2)).or (r.appenders? tag) := by
    rw [hr, appenders?_withEntries, lastFor_eq_find?, appenders?_registered]
  -- each definition asks for something, and so the last one of a tag has the last entry
  have hlast : Option.Rel (fun d p => entry (Registry.settings r.configuration.join c)
      (r.registered c).classList d = .ok p)
      (lastDefinition ds tag) (es.reverse.find? (·.1.same tag)) :=
    find?_of_forall₂ (List.rel_reverse hall) fun d p hp => defines_of_entry hp tag
  generalize lastDefinition ds tag = d, es.reverse.find? (·.1.same tag) = p at hlast hget
  cases hlast with
  | none => exact hget
  | some hd =>
      obtain ⟨es', level, rfl, hlevel, hmade, -⟩ := parts_of_entry hd
      obtain ⟨l, rfl⟩ := Level.exists_of_ofValue hlevel
      obtain ⟨hcls, hparts⟩ := parts_of_made hmade
      have hclasses : (r.configured c).1.classList = (r.registered c).classList := by
        rw [hr, classList_withEntries]
      exact ⟨_, es', l, _, configuration_configured r c, rfl, hlevel, hget,
        hcls.trans hclasses.symm, hparts⟩

end Registry

namespace Session

/-! ## The same for a session -/

/-- The registry that something left, and the fault with which it ended. -/
def outcome {α : Type} : EStateM.Result Fault Session α → Registry × Option Fault
  | .ok _ s => (s.registry, none)
  | .error f s => (s.registry, some f)

theorem outcome_configure (s : Session) (c : Config) (h : s.registry.frozen = false) :
    outcome (perform (.configure c) s) = s.registry.configured c := by
  have hr : (s.after (.configure c)).registry = (s.registry.configured c).1 := by
    rw [registry_after_configure, h]
    rfl
  rw [perform_configure s c h]
  cases hf : (s.registry.configured c).2 with
  | none => exact Prod.ext hr hf.symm
  | some f => exact Prod.ext hr hf.symm

/-- A configuration after another one is read if that one was accepted. -/
theorem outcome_configure_bind (s : Session) (c c' : Config) (h : s.registry.frozen = false) :
    outcome ((perform (.configure c) >>= fun _ => perform (.configure c')) s)
      = match s.registry.configured c with
        | (r', none) => r'.configured c'
        | (r', some f) => (r', some f) := by
  have ho := outcome_configure s c h
  have hfrozen := Registry.frozen_configured s.registry c
  rw [h] at hfrozen
  rw [bind_apply]
  cases hp : perform (.configure c) s with
  | error f s' =>
      rw [hp] at ho
      rw [← ho]
      rfl
  | ok u s' =>
      rw [hp] at ho
      rw [← ho] at hfrozen ⊢
      exact outcome_configure s' c' hfrozen

/-- Configurations in a session in which no event was delivered since the last reset:

    1. A configuration with two lists of definitions in one leads to the same registry as the
       configuration with the first list and then, if this was accepted, the one with the second list.
       The fault is the same, too, if there is one.
    2. A configuration that is given a second time changes nothing, and ends with the same fault as the
       first time, or without one again.
    3. After a configuration that was accepted, each tag that it has definitions of has one appender of
       each class that is registered then, in this order, with the level and the layout of the last of
       these definitions. Every other tag has the appenders that it had before. -/
theorem configure_composes (zone : LocalZone) (ops : List Operation)
    (h : ¬ DeliveredSinceReset (initial zone) ops) (c : Config) :
    let s := (initial zone).run ops
    (∀ as bs : List Value,
        outcome (perform (.configure (c.withLoggers (as ++ bs))) s)
          = outcome ((perform (.configure (c.withLoggers as))
              >>= fun _ => perform (.configure (c.withLoggers bs))) s))
      ∧ outcome (perform (.configure c) (s.after (.configure c)))
          = outcome (perform (.configure c) s)
      ∧ ∀ s', perform (.configure c) s = .ok () s' →
          ∃ ds, c.loggers = some (.list ds)
            ∧ ∀ tag, match Registry.lastDefinition ds tag with
              | none => s'.registry.appenders? tag = s.registry.appenders? tag
              | some d => s'.registry.Follows tag d := by
  intro s
  have hfrozen : s.registry.frozen = false :=
    eq_false_of_ne_true fun hd => h ((frozen_run_iff zone ops).1 hd)
  have hw : s.registry.WellFormed := wellFormed_run (initial zone) ops Registry.wellFormed_empty
  refine ⟨fun as bs => ?_, ?_, fun s' hs' => ?_⟩
  · rw [outcome_configure s _ hfrozen, outcome_configure_bind s _ _ hfrozen,
      Registry.configured_append]
  · have hr : (s.after (.configure c)).registry = (s.registry.configured c).1 := by
      rw [registry_after_configure, hfrozen]
      rfl
    have hfrozen' : (s.after (.configure c)).registry.frozen = false := by
      rw [hr, Registry.frozen_configured, hfrozen]
    rw [outcome_configure _ c hfrozen', outcome_configure s c hfrozen, hr,
      Registry.configured_configured hw]
  · have ho := outcome_configure s c hfrozen
    rw [hs'] at ho
    have hend := Registry.appenders?_configured (congrArg Prod.snd ho).symm
    rw [← ho] at hend
    exact hend

/-- A tag that is defined in both parts, and one that is defined in none of them. -/
theorem configure_composes_two_parts :
    let definition (tag : Text) (rest : Entries) : Value := .map ((Config.tagKey, .str tag) :: rest)
    let s := (initial .universal).run
      [.configure (Config.empty.withLoggers [definition "web" []])]
    let c : Config := { Config.empty with layout := some (.str "%m") }
    let as := [definition "db" [(Config.levelKey, .str "debug")]]
    let bs := [definition "db" [(Config.layoutKey, .str "%p")]]
    let s' := s.after (.configure (c.withLoggers (as ++ bs)))
    perform (.configure (c.withLoggers (as ++ bs))) s = .ok () s'
      ∧ outcome ((perform (.configure (c.withLoggers as))
          >>= fun _ => perform (.configure (c.withLoggers bs))) s) = (s'.registry, none)
      ∧ outcome (perform (.configure (c.withLoggers (as ++ bs))) s') = (s'.registry, none)
      ∧ (∃ a, s'.registry.appenders? (.str "db") = some [a] ∧ a.level = Level.error
          ∧ a.layout = "%p")
      ∧ s'.registry.appenders? (.str "web") = s.registry.appenders? (.str "web") := by
  intro definition
  have hr : ((initial .universal).run
      [.configure (Config.empty.withLoggers [definition "web" []])]).registry
      = (Registry.empty.configured (Config.empty.withLoggers [definition "web" []])).1 := by
    rw [run_cons, run_nil, registry_after_configure]
    rfl
  have hd : ¬ DeliveredSinceReset (initial .universal)
      [.configure (Config.empty.withLoggers [definition "web" []])] := by
    rw [← frozen_run_iff, hr, Registry.frozen_configured]
    exact Bool.false_ne_true
  have hcomposes := configure_composes .universal _ hd
  -- nothing else is known of the session, so that no step evaluates it
  generalize (initial .universal).run _ = s at hr hcomposes
  intro s c as bs s'
  have hfrozen : s.registry.frozen = false := by
    rw [hr, Registry.frozen_configured]
    rfl
  have hok : perform (.configure (c.withLoggers (as ++ bs))) s = .ok () s' := by
    rw [perform_configure s _ hfrozen, hr]
    rfl
  have hclasses : s'.registry.classList = [Appender.consoleClass] := by
    rw [registry_after_configure, hfrozen, hr]
    rfl
  obtain ⟨hparts, -, -⟩ := hcomposes c
  obtain ⟨-, htwice, hlast⟩ := hcomposes (c.withLoggers (as ++ bs))
  have hend : outcome (perform (.configure (c.withLoggers (as ++ bs))) s) = (s'.registry, none) := by
    rw [hok]
    rfl
  obtain ⟨ds, hds, htags⟩ := hlast s' hok
  obtain rfl : as ++ bs = ds := by simpa [Config.withLoggers] using hds
  obtain ⟨o, es, level, appenders, -, hes, hlevel, hget, hcls, hall⟩ := htags (.str "db")
  refine ⟨hok, (hparts as bs).symm.trans hend, htwice.trans hend, ?_, htags (.str "web")⟩
  obtain rfl := Value.map.inj hes
  rw [hclasses] at hcls
  obtain ⟨a, rfl, -⟩ := List.map_eq_singleton_iff.1 hcls
  obtain ⟨hl, ht⟩ := hall a (by simp)
  refine ⟨a, hget, hl.trans ?_, Value.str.inj ht⟩
  exact (Option.some.inj (Except.ok.inj hlevel)).symm

end Session
end EventLog

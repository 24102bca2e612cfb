import EventLog.Proofs.Registry.Outcome

set_option autoImplicit false

/-! # What holds of every registry

A registry keeps two tables, of appender classes by name and of appenders by tag, and they are changed
by different operations. What ties them together is `WellFormed`: the appenders of a tag are one each
of the classes that were registered first, in the order of registration. A class that is registered
later is missing at the tags that were set up before, but it comes after all that are there, so the
appenders of a tag always belong to a prefix of the list of classes.

Every operation keeps this, whether it succeeds, is refused or ends with a fault half way, because each
of its steps does (`wellFormed_after`). The main statement is `registry_invariant`. -/

namespace EventLog

namespace Registry

/-- The invariant of a registry. -/
structure WellFormed (r : Registry) : Prop where
  /-- A class is registered under its own name, which is not empty. -/
  named : ∀ p ∈ r.classes, p.1 ≠ [] ∧ p.2.name = some p.1
  /-- No two classes have one name. -/
  names : r.classes.keys.Nodup
  /-- No tag occurs twice, however it is spelled. -/
  tags : r.loggers.keys.Pairwise fun k l => k.same l = false
  /-- The appenders of a tag are one each of the first classes. -/
  instances : ∀ p ∈ r.loggers, p.2.map (·.cls) <+: r.classList
  /-- The appenders of a tag have one level and one layout. -/
  uniform : ∀ p ∈ r.loggers, ∀ a ∈ p.2, ∀ b ∈ p.2, a.level = b.level ∧ a.layout = b.layout

theorem wellFormed_empty : empty.WellFormed :=
  ⟨by simp [empty], List.Pairwise.nil, List.Pairwise.nil, by simp [empty], by simp [empty]⟩

/-- Neither the settings nor whether the registry is frozen matter. -/
theorem WellFormed.withSettings {r : Registry} (h : r.WellFormed)
    (settings : Option (Option Configuration)) (frozen : Bool) :
    { r with configuration := settings, frozen := frozen }.WellFormed :=
  ⟨h.named, h.names, h.tags, h.instances, h.uniform⟩

/-! ## Classes -/

/-- A candidate is accepted under the name of its class. -/
theorem name_of_accept {candidate : Candidate} {p : Text × AppenderClass}
    (h : accept candidate = .ok p) : p.1 ≠ [] ∧ p.2.name = some p.1 := by
  cases candidate with
  | cls c =>
      rw [accept] at h
      split at h
      · rename_i x name hn
        obtain rfl := Except.ok.inj h
        exact ⟨by simp, hn⟩
      · cases h
  | _ => cases h

/-- A new class comes after all others. -/
theorem classes_addClass (r : Registry) (name : Text) (c : AppenderClass) :
    (r.addClass name c).classes
      = if r.classes.has name then r.classes else r.classes ++ [(name, c)] := by
  unfold addClass
  split
  · rfl
  · rename_i h
    exact Table.put_of_not_has _ _ _ (eq_false_of_ne_true h)

theorem loggers_addClass (r : Registry) (name : Text) (c : AppenderClass) :
    (r.addClass name c).loggers = r.loggers := by
  rw [addClass_eq]

/-- The classes that are there stay where they are. -/
theorem classes_prefix_addClass (r : Registry) (name : Text) (c : AppenderClass) :
    r.classes <+: (r.addClass name c).classes := by
  rw [classes_addClass]
  split
  · exact List.prefix_refl _
  · exact List.prefix_append _ _

/-- The first class of a name is the one that is kept. -/
theorem get?_classes_addClass (r : Registry) (name : Text) (c : AppenderClass) :
    (r.addClass name c).classes.get? name = some ((r.classes.get? name).getD c) := by
  unfold addClass
  split
  · rename_i h
    obtain ⟨d, hd⟩ := Option.isSome_iff_exists.1 h
    rw [hd]
    rfl
  · rename_i h
    have hn : r.classes.get? name = none := by
      simpa [Table.has] using h
    simp [hn]

theorem WellFormed.addClass {r : Registry} (h : r.WellFormed) {name : Text} {c : AppenderClass}
    (hne : name ≠ []) (hc : c.name = some name) : (r.addClass name c).WellFormed := by
  have hl := loggers_addClass r name c
  have hp := classes_prefix_addClass r name c
  refine ⟨?_, ?_, by rw [hl]; exact h.tags, ?_, by rw [hl]; exact h.uniform⟩
  · intro p hm
    rw [classes_addClass] at hm
    split at hm
    · exact h.named p hm
    · rcases List.mem_append.1 hm with hm | hm
      · exact h.named p hm
      · obtain rfl := List.mem_singleton.1 hm
        exact ⟨hne, hc⟩
  · unfold Registry.addClass
    split
    · exact h.names
    · exact Table.nodup_keys_put _ _ _ h.names
  · intro p hm
    rw [hl] at hm
    exact (h.instances p hm).trans (hp.map _)

theorem addClasses_cons (r : Registry) (p : Text × AppenderClass)
    (ps : List (Text × AppenderClass)) :
    r.addClasses (p :: ps) = (r.addClass p.1 p.2).addClasses ps := rfl

theorem classes_prefix_addClasses (r : Registry) (ps : List (Text × AppenderClass)) :
    r.classes <+: (r.addClasses ps).classes := by
  induction ps generalizing r with
  | nil => exact List.prefix_refl _
  | cons p ps ih => exact (classes_prefix_addClass r p.1 p.2).trans (ih _)

theorem WellFormed.addClasses {r : Registry} (h : r.WellFormed)
    (ps : List (Text × AppenderClass)) (hp : ∀ p ∈ ps, p.1 ≠ [] ∧ p.2.name = some p.1) :
    (r.addClasses ps).WellFormed := by
  induction ps generalizing r with
  | nil => exact h
  | cons p ps ih =>
      obtain ⟨hne, hc⟩ := hp p (by simp)
      rw [addClasses_cons]
      exact ih (h.addClass hne hc) fun q hq => hp q (List.mem_cons_of_mem _ hq)

/-! ## Appenders of a tag -/

/-- A tag that is known in some spelling keeps it, and any other one comes last. -/
theorem keys_withEntry (r : Registry) (p : Key × List Appender) :
    (r.withEntry p).loggers.keys
      = match r.loggers.keys.find? (·.same p.1) with
        | some _ => r.loggers.keys
        | none => r.loggers.keys ++ [p.1] := by
  rw [withEntry]
  dsimp only
  rw [Table.keys_put, tagFor]
  cases hf : r.loggers.keys.find? (·.same p.1) with
  | some k =>
      have hk : k ∈ r.loggers.keys := List.mem_of_find?_eq_some hf
      rw [Option.getD_some, if_pos hk]
  | none =>
      have hk : p.1 ∉ r.loggers.keys := fun hm =>
        List.find?_eq_none.1 hf p.1 hm (Key.same_self p.1)
      rw [Option.getD_none, if_neg hk]

theorem classes_withEntries (r : Registry) (ps : List (Key × List Appender)) :
    (r.withEntries ps).classes = r.classes := by
  rw [withEntries_eq]

theorem exists_of_made {level : Int} {layout : Value} {classes : List AppenderClass}
    {appenders : List Appender} (h : made level layout classes = .ok appenders) :
    ∃ t : Text, appenders = classes.map (Appender.ofClass · level t) := by
  cases classes with
  | nil =>
      -- nothing is made, so it does not matter whether the layout is a text
      obtain rfl := Except.ok.inj h
      exact ⟨[], rfl⟩
  | cons c rest =>
      cases layout with
      | str t =>
          obtain rfl := Except.ok.inj h
          exact ⟨t, rfl⟩
      | _ => cases h

/-- A definition that asks for something is a mapping with a level, a layout and a tag. -/
theorem parts_of_entry {settings : Configuration} {classes : List AppenderClass} {d : Value}
    {p : Key × List Appender} (h : entry settings classes d = .ok p) :
    ∃ (es : Entries) (level : Option Level), d = .map es
      ∧ Level.ofValue (some Level.error) ((es.get? Config.levelKey).getD .null) = .ok level
      ∧ made (level.getD Level.error) (layoutOf es settings) classes = .ok p.2
      ∧ (tagOf es).toKey? = some p.1 := by
  cases d with
  | map es =>
      rw [entry] at h
      split at h
      · cases h
      · rename_i level hl
        split at h
        · cases h
        · rename_i appenders hm
          split at h
          · cases h
          · rename_i tag ht
            obtain rfl := Except.ok.inj h
            exact ⟨es, level, rfl, hl, hm, ht⟩
  | _ => cases h

/-- A definition asks for an appender of each class, all with one level and one layout. -/
theorem exists_of_entry {settings : Configuration} {classes : List AppenderClass} {d : Value}
    {p : Key × List Appender} (h : entry settings classes d = .ok p) :
    ∃ (level : Int) (layout : Text), p.2 = classes.map (Appender.ofClass · level layout) := by
  obtain ⟨es, level, -, -, hm, -⟩ := parts_of_entry h
  obtain ⟨t, ht⟩ := exists_of_made hm
  exact ⟨level.getD Level.error, t, ht⟩

theorem WellFormed.withEntry {r : Registry} (h : r.WellFormed) {p : Key × List Appender}
    (hp : ∃ (level : Int) (layout : Text),
      p.2 = r.classList.map (Appender.ofClass · level layout)) : (r.withEntry p).WellFormed := by
  obtain ⟨level, layout, hp⟩ := hp
  refine ⟨h.named, h.names, ?_, ?_, ?_⟩
  · rw [keys_withEntry]
    cases hf : r.loggers.keys.find? (·.same p.1) with
    | some k => exact h.tags
    | none =>
        -- the search has shown that the new tag is the same key as none before it
        refine List.pairwise_append.2 ⟨h.tags, List.pairwise_singleton _ _, ?_⟩
        intro k hm l hl
        obtain rfl := List.mem_singleton.1 hl
        exact eq_false_of_ne_true (List.find?_eq_none.1 hf k hm)
  · intro q hq
    rcases Table.mem_put _ _ _ _ hq with rfl | hq
    · rw [hp, List.map_map]
      have hid : (Appender.cls ∘ fun c => Appender.ofClass c level layout) = id := rfl
      rw [hid, List.map_id]
      exact List.prefix_refl _
    · exact h.instances q hq
  · intro q hq a ha b hb
    rcases Table.mem_put _ _ _ _ hq with rfl | hq
    · rw [hp] at ha hb
      obtain ⟨c, -, rfl⟩ := List.mem_map.1 ha
      obtain ⟨d, -, rfl⟩ := List.mem_map.1 hb
      exact ⟨rfl, rfl⟩
    · exact h.uniform q hq a ha b hb

theorem WellFormed.withEntries {r : Registry} (h : r.WellFormed)
    (ps : List (Key × List Appender))
    (hp : ∀ p ∈ ps, ∃ (level : Int) (layout : Text),
      p.2 = r.classList.map (Appender.ofClass · level layout)) : (r.withEntries ps).WellFormed := by
  induction ps generalizing r with
  | nil => exact h
  | cons p ps ih =>
      exact ih (h.withEntry (hp p (by simp))) fun q hq => hp q (List.mem_cons_of_mem _ hq)

/-! ## Levels and deliveries -/

/-- What is said about a registry does not depend on what its appenders kept. -/
theorem wellFormed_bare {r : Registry} : r.bare.WellFormed ↔ r.WellFormed := by
  have hk : r.bare.loggers.keys = r.loggers.keys := Table.keys_mapValues _ _
  have hc : ∀ as : List Appender, (as.map Appender.bare).map (·.cls) = as.map (·.cls) := by
    intro as
    rw [List.map_map]
    rfl
  have hm : ∀ p ∈ r.loggers, (p.1, p.2.map Appender.bare) ∈ r.bare.loggers := by
    intro p hp
    exact List.mem_map.2 ⟨p, hp, rfl⟩
  constructor
  · intro h
    refine ⟨h.named, h.names, by rw [← hk]; exact h.tags, ?_, ?_⟩
    · intro p hp
      have := h.instances _ (hm p hp)
      rwa [hc] at this
    · intro p hp a ha b hb
      exact h.uniform _ (hm p hp) a.bare (List.mem_map_of_mem ha) b.bare (List.mem_map_of_mem hb)
  · intro h
    refine ⟨h.named, h.names, by rw [hk]; exact h.tags, ?_, ?_⟩
    · intro q hq
      obtain ⟨p, hp, rfl⟩ := List.mem_map.1 hq
      rw [hc]
      exact h.instances p hp
    · intro q hq a ha b hb
      obtain ⟨p, hp, rfl⟩ := List.mem_map.1 hq
      obtain ⟨a', ha', rfl⟩ := List.mem_map.1 ha
      obtain ⟨b', hb', rfl⟩ := List.mem_map.1 hb
      exact h.uniform p hp a' ha' b' hb'

/-- Setting a level sets it for all appenders of a tag or for none of them. -/
theorem loggers_withLevel (r : Registry) (level : Int) (tag : Option Key) :
    ∃ chosen : Key → Bool, (r.withLevel level tag).loggers
      = r.loggers.map fun p => (p.1, if chosen p.1 then setLevels level p.2 else p.2) := by
  cases tag with
  | none => exact ⟨fun _ => true, by simp [withLevel]⟩
  | some tag =>
      refine ⟨fun k => decide (k = r.tagFor tag), ?_⟩
      simp only [withLevel]
      refine List.map_congr_left fun p _ => ?_
      by_cases h : p.1 = r.tagFor tag <;> simp [h]

theorem WellFormed.withLevel {r : Registry} (h : r.WellFormed) (level : Int) (tag : Option Key) :
    (r.withLevel level tag).WellFormed := by
  obtain ⟨chosen, hl⟩ := loggers_withLevel r level tag
  have hclasses : (r.withLevel level tag).classes = r.classes := by
    cases tag <;> rfl
  have hkeys : (r.withLevel level tag).loggers.keys = r.loggers.keys := by
    rw [hl, Table.keys, List.map_map]
    rfl
  refine ⟨by rw [hclasses]; exact h.named, by rw [hclasses]; exact h.names,
    by rw [hkeys]; exact h.tags, ?_, ?_⟩
  · intro q hq
    rw [hl] at hq
    obtain ⟨p, hp, rfl⟩ := List.mem_map.1 hq
    have hi := h.instances p hp
    rw [classList, hclasses]
    dsimp only
    split
    · rw [setLevels, List.map_map]
      exact hi
    · exact hi
  · intro q hq a ha b hb
    rw [hl] at hq
    obtain ⟨p, hp, rfl⟩ := List.mem_map.1 hq
    dsimp only at ha hb
    split at ha
    · rename_i hs
      rw [if_pos hs] at hb
      obtain ⟨a', ha', rfl⟩ := List.mem_map.1 ha
      obtain ⟨b', hb', rfl⟩ := List.mem_map.1 hb
      exact ⟨rfl, (h.uniform p hp a' ha' b' hb').2⟩
    · rename_i hs
      rw [if_neg hs] at hb
      exact h.uniform p hp a ha b hb

theorem WellFormed.leveled {r : Registry} (h : r.WellFormed) (level tag : Value) :
    (r.leveled level tag).WellFormed := by
  unfold Registry.leveled
  split
  · split
    · split
      · exact h.withLevel _ _
      · exact h
    · exact h.withLevel _ _
  · exact h

/-! ## Configuring -/

/-- A configuration keeps the invariant wherever it ends. -/
theorem WellFormed.configured {r : Registry} (h : r.WellFormed) (c : Config) :
    (r.configured c).1.WellFormed := by
  have hs := h.withSettings (some (some (settings r.configuration.join c))) r.frozen
  have ha : ∀ p ∈ (upToFault accept (candidates c.appenders)).1,
      p.1 ≠ [] ∧ p.2.name = some p.1 := by
    intro p hp
    obtain ⟨candidate, -, hc⟩ := exists_of_mem_upToFault _ _ _ hp
    exact name_of_accept hc
  have hr := hs.addClasses _ ha
  unfold Registry.configured
  dsimp only
  split
  · exact hr
  · refine hr.withEntries _ fun p hp => ?_
    unfold entries at hp
    split at hp
    · obtain ⟨d, -, hd⟩ := exists_of_mem_upToFault _ _ _ hp
      exact exists_of_entry hd
    · cases hp

theorem classes_prefix_configured (r : Registry) (c : Config) :
    r.classes <+: (r.configured c).1.classes := by
  have hp := classes_prefix_addClasses
    { r with configuration := some (some (settings r.configuration.join c)) }
    (upToFault accept (candidates c.appenders)).1
  unfold configured
  dsimp only
  split
  · exact hp
  · rw [classes_withEntries]
    exact hp

/-! ## What follows from the invariant -/

/-- No two appenders of a tag have one name. -/
theorem WellFormed.nodup_names {r : Registry} (h : r.WellFormed) {p : Key × List Appender}
    (hp : p ∈ r.loggers) : (p.2.map (·.cls.name)).Nodup := by
  have hn : r.classList.map (·.name) = r.classes.keys.map some := by
    rw [classList, Table.keys, List.map_map, List.map_map]
    exact List.map_congr_left fun q hq => (h.named q hq).2
  have hs : (r.classes.keys.map some).Nodup :=
    List.Pairwise.map some (fun a b hab e => hab (Option.some.inj e)) h.names
  -- the appenders belong to the first classes, whose names are the first of the table
  have hm : p.2.map (·.cls.name) = (p.2.map (·.cls)).map (·.name) := by
    rw [List.map_map]
    rfl
  rw [hm]
  exact ((h.instances p hp).map (·.name)).sublist.nodup (hn ▸ hs)

/-- The class of an appender is the one that is registered under its name. -/
theorem WellFormed.registered {r : Registry} (h : r.WellFormed) {p : Key × List Appender}
    (hp : p ∈ r.loggers) {a : Appender} (ha : a ∈ p.2) :
    ∃ name, a.cls.name = some name ∧ r.classes.get? name = some a.cls := by
  have hc : a.cls ∈ r.classList := (h.instances p hp).subset (List.mem_map_of_mem ha)
  obtain ⟨q, hq, he⟩ := List.mem_map.1 hc
  rw [← he]
  exact ⟨q.1, (h.named q hq).2, Table.get?_of_mem _ _ h.names hq⟩

end Registry

/-! ## Histories -/

namespace Session

/-- Every operation keeps the invariant, however it ends. -/
theorem wellFormed_after (s : Session) (op : Operation) (h : s.registry.WellFormed) :
    (s.after op).registry.WellFormed := by
  cases op with
  | configure c =>
      rw [registry_after_configure]
      split
      · exact h
      · exact h.configured c
  | misconfigure =>
      rw [registry_after_misconfigure]
      split
      · exact h
      · exact h.withSettings _ _
  | addAppender candidate =>
      rw [registry_after_addAppender]
      split
      · exact h
      · split
        · rename_i p hp
          obtain ⟨hne, hc⟩ := Registry.name_of_accept hp
          exact h.addClass hne hc
        · exact h
  | getLogger context stack ticks =>
      rw [registry_after_getLogger]
      split
      · exact h.configured _
      · exact h
  | log handle call level message args =>
      -- an appender may keep anything, so only the bare registry is known afterwards
      have hb := Registry.wellFormed_bare.2 h
      refine Registry.wellFormed_bare.1 ?_
      rw [bare_registry_after_log]
      split
      · exact hb.withSettings _ _
      · exact hb
  | setLogLevel level tag =>
      rw [registry_after_setLogLevel]
      exact h.leveled level tag
  | install source => exact h
  | reset => exact Registry.wellFormed_empty

/-- Every registry that a history leads to is well formed. -/
theorem wellFormed_run (s : Session) (ops : List Operation) (h : s.registry.WellFormed) :
    (s.run ops).registry.WellFormed := by
  induction ops generalizing s with
  | nil => exact h
  | cons op ops ih => exact ih (s.after op) (wellFormed_after s op h)

/-- Only a reset takes a class away or puts another one before it. -/
theorem classes_prefix_after (s : Session) (op : Operation) (h : op ≠ .reset) :
    s.registry.classes <+: (s.after op).registry.classes := by
  have hrefl := List.prefix_refl s.registry.classes
  cases op with
  | configure c =>
      rw [registry_after_configure]
      split
      · exact hrefl
      · exact Registry.classes_prefix_configured _ _
  | misconfigure =>
      rw [registry_after_misconfigure]
      split <;> exact hrefl
  | addAppender candidate =>
      rw [registry_after_addAppender]
      split
      · exact hrefl
      · split
        · exact Registry.classes_prefix_addClass _ _ _
        · exact hrefl
  | getLogger context stack ticks =>
      rw [registry_after_getLogger]
      split
      · exact Registry.classes_prefix_configured _ _
      · exact hrefl
  | log handle call level message args =>
      have hb : (s.after (.log handle call level message args)).registry.bare.classes
          = s.registry.bare.classes := by
        rw [bare_registry_after_log]
        split <;> rfl
      exact hb ▸ hrefl
  | setLogLevel level tag =>
      have hc : (s.after (.setLogLevel level tag)).registry.classes = s.registry.classes := by
        rw [registry_after_setLogLevel, Registry.leveled_eq]
      exact hc ▸ hrefl
  | install source => exact hrefl
  | reset => exact absurd rfl h

theorem classes_prefix_run (s : Session) (ops : List Operation) (h : ∀ op ∈ ops, op ≠ .reset) :
    s.registry.classes <+: (s.run ops).registry.classes := by
  induction ops generalizing s with
  | nil => exact List.prefix_refl _
  | cons op ops ih =>
      have hop := classes_prefix_after s op (h op (by simp))
      exact hop.trans (ih (s.after op) fun q hq => h q (List.mem_cons_of_mem _ hq))

/-- After every history, however its operations ended:

    1. Every class is registered under its own name, which is not empty, and no name is taken twice. A
       class that is added gets its name only if no other class has it, and keeps it until a reset.
    2. The appenders of a tag are, in order, one each of the classes that were registered first. So no
       two of them have one name, and the class of each is the one registered under its name.
    3. The appenders of a tag have one level and one layout. -/
theorem registry_invariant (zone : LocalZone) (ops : List Operation) :
    let s := (initial zone).run ops
    ((∀ p ∈ s.registry.classes, p.1 ≠ [] ∧ p.2.name = some p.1)
        ∧ s.registry.classes.keys.Nodup
        ∧ (∀ (c : AppenderClass) (name : Text), c.name = some name → name ≠ [] →
            s.registry.refusesClasses = false →
            (s.after (.addAppender (.cls c))).registry.classes.get? name
              = some ((s.registry.classes.get? name).getD c))
        ∧ (∀ (later : List Operation) (c : AppenderClass) (name : Text),
            (∀ op ∈ later, op ≠ .reset) → s.registry.classes.get? name = some c →
            (s.run later).registry.classes.get? name = some c))
      ∧ (∀ p ∈ s.registry.loggers,
          p.2.map (·.cls) <+: s.registry.classes.map (·.2)
            ∧ (p.2.map (·.cls.name)).Nodup
            ∧ ∀ a ∈ p.2, ∃ name, a.cls.name = some name
                ∧ s.registry.classes.get? name = some a.cls)
      ∧ ∀ p ∈ s.registry.loggers, ∀ a ∈ p.2, ∀ b ∈ p.2,
          a.level = b.level ∧ a.layout = b.layout := by
  intro s
  have h : s.registry.WellFormed := wellFormed_run (initial zone) ops Registry.wellFormed_empty
  refine ⟨⟨h.named, h.names, ?_, ?_⟩, ?_, h.uniform⟩
  · intro c name hc hne hr
    have ha : Registry.accept (.cls c) = .ok (name, c) := by
      cases name with
      | nil => exact absurd rfl hne
      | cons x name => simp only [Registry.accept, hc]
    rw [registry_after_addAppender, hr, ha]
    exact Registry.get?_classes_addClass _ _ _
  · intro later c name hl hg
    obtain ⟨new, hnew⟩ := classes_prefix_run s later hl
    rw [← hnew]
    exact Table.get?_append_of_get? _ _ _ _ hg
  · intro p hp
    exact ⟨h.instances p hp, h.nodup_names hp, fun a ha => h.registered hp ha⟩

end Session
end EventLog

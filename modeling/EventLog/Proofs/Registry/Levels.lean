import EventLog.Proofs.Registry.Lookup

set_option autoImplicit false

/-! # Whose level is set

A level may be set for the appenders of one tag or, without a name, for those of all tags, and a name that
no tag has is a name of none of them, although events of this name go to the appenders of the main tag.
`withLevels` gives the appenders of each tag the level that is chosen for it and touches nothing else, and
setting a level comes to this (`WellFormed.leveled_eq`). Choices that are made one after the other make one
choice, where the last one counts (`withLevels_withLevels`), so that the levels after any number of steps
are known from the steps that are meant for a tag (`registry_run_setLogLevels`). The main statement is
`set_level_of_targets`. -/

namespace EventLog

namespace Registry

/-! ## Levels chosen by tag -/

/-- The registry in which the appenders of a tag have the level that is chosen for it; they keep theirs if
    none is chosen. -/
def withLevels (r : Registry) (chosen : Key → Option Level) : Registry :=
  { r with
    loggers := r.loggers.map fun p =>
      (p.1, p.2.map fun a => { a with level := (chosen p.1).getD a.level }) }

/-- Only what is chosen for the tags that there are counts. -/
theorem withLevels_congr {r : Registry} {f g : Key → Option Level}
    (h : ∀ tag ∈ r.loggers.keys, f tag = g tag) : r.withLevels f = r.withLevels g := by
  rw [withLevels, withLevels]
  congr 1
  refine List.map_congr_left fun p hp => ?_
  rw [h p.1 (List.mem_map_of_mem hp)]

theorem withLevels_none (r : Registry) : r.withLevels (fun _ => none) = r := by
  simp [withLevels]

/-- A registry is left alone if nothing is chosen for any of its tags. -/
theorem withLevels_eq_self {r : Registry} {chosen : Key → Option Level}
    (h : ∀ tag ∈ r.loggers.keys, chosen tag = none) : r.withLevels chosen = r :=
  (withLevels_congr h).trans (withLevels_none r)

/-- Of two choices the second one counts, if it is one. -/
theorem withLevels_withLevels (r : Registry) (f g : Key → Option Level) :
    (r.withLevels f).withLevels g = r.withLevels fun tag => (g tag).or (f tag) := by
  simp only [withLevels, List.map_map]
  congr 1
  refine List.map_congr_left fun p _ => Prod.ext rfl ?_
  simp only [Function.comp_apply, List.map_map]
  refine List.map_congr_left fun a _ => ?_
  cases g p.1 <;> simp

/-! ## Setting a level -/

/-- Whether a level that is set for a name is meant for a tag. Without a name it is meant for all tags. -/
def isMeant (name : Value) (tag : Key) : Bool :=
  if name.isSet then name.toKey?.any (·.same tag) else true

/-- The level that is chosen for a tag when a level is set for a name. -/
def levelFor (tag : Key) (level name : Value) : Option Level :=
  match Level.ofValue none level with
  | .ok (some l) => if isMeant name tag then some l else none
  | _ => none

/-- A known tag is the one that is meant by each of its spellings and by nothing else. -/
theorem WellFormed.eq_tagFor_iff {r : Registry} (h : r.WellFormed) {k : Key}
    (hk : k ∈ r.loggers.keys) (tag : Key) : k = r.tagFor tag ↔ tag.same k = true := by
  constructor
  · rintro rfl
    exact Key.same_symm (tagFor_same r tag)
  · intro hs
    have ht := h.tagFor_of_mem hk
    have hcongr : (fun l : Key => l.same tag) = fun l => l.same k :=
      funext fun l => Key.same_congr hs l
    rw [tagFor] at ht ⊢
    rw [hcongr]
    cases hf : r.loggers.keys.find? (·.same k) with
    | none => exact absurd (Key.same_self k) (List.find?_eq_none.1 hf k hk)
    | some l =>
        rw [hf] at ht
        exact ht.symm

theorem withLevel_none (r : Registry) (l : Level) :
    r.withLevel l none = r.withLevels fun _ => some l :=
  rfl

theorem WellFormed.withLevel_some {r : Registry} (h : r.WellFormed) (l : Level) (key : Key) :
    r.withLevel l (some key) = r.withLevels fun tag => if key.same tag then some l else none := by
  rw [Registry.withLevel, withLevels]
  congr 1
  refine List.map_congr_left fun p hp => ?_
  have hk : p.1 ∈ r.loggers.keys := List.mem_map_of_mem hp
  by_cases hs : key.same p.1 = true
  · rw [if_pos ((h.eq_tagFor_iff hk key).2 hs), if_pos hs]
    rfl
  · rw [if_neg (mt (h.eq_tagFor_iff hk key).1 hs), if_neg hs]
    simp

/-- Setting a level for a name chooses it for the tags for which it is meant. -/
theorem WellFormed.leveled_eq {r : Registry} (h : r.WellFormed) (level name : Value) :
    r.leveled level name = r.withLevels fun tag => levelFor tag level name := by
  unfold Registry.leveled levelFor
  cases Level.ofValue none level with
  | error f => exact (withLevels_none r).symm
  | ok level =>
      cases level with
      | none => exact (withLevels_none r).symm
      | some l =>
          dsimp only
          by_cases hset : name.isSet = true
          · rw [if_pos hset]
            cases hkey : name.toKey? with
            | none =>
                have hmeant : ∀ tag, isMeant name tag = false := fun tag => by
                  simp [isMeant, hset, hkey]
                simp only [hmeant]
                exact (withLevels_none r).symm
            | some key =>
                have hmeant : ∀ tag, isMeant name tag = key.same tag := fun tag => by
                  simp [isMeant, hset, hkey]
                simp only [hmeant]
                exact h.withLevel_some l key
          · have hmeant : ∀ tag, isMeant name tag = true := fun tag => by
              simp [isMeant, hset]
            rw [if_neg hset]
            simp only [hmeant]
            exact withLevel_none r l

end Registry

namespace Session

/-! ## The same for a session -/

/-- Setting a level does something if a level is given, and the name, if there is one, can be a key. -/
theorem perform_setLogLevel (s : Session) (level name : Value) :
    perform (.setLogLevel level name) s
      = match Level.ofValue none level with
        | .error f => .error f s
        | .ok none => .ok () { s with env := s.env.report .levelMissing }
        | .ok (some _) =>
            if name.isSet = true ∧ name.toKey? = none then .error .tagNotAKey s
            else .ok () { s with registry := s.registry.leveled level name } := by
  rw [perform, inOffice, Registry.setLogLevel, Registry.leveled]
  cases Level.ofValue none level with
  | error f => rfl
  | ok level =>
      cases level with
      | none => rfl
      | some l =>
          by_cases hset : name.isSet = true
          · cases hkey : name.toKey? <;> simp [hset] <;> rfl
          · simp [hset]
            rfl

/-- After several steps each tag has the level of the last one that had a level and was meant for it. -/
theorem registry_run_setLogLevels (s : Session) (h : s.registry.WellFormed)
    (steps : List (Value × Value)) :
    (s.run (steps.map fun p => .setLogLevel p.1 p.2)).registry
      = s.registry.withLevels fun tag =>
          steps.reverse.findSome? fun p => Registry.levelFor tag p.1 p.2 := by
  induction steps generalizing s with
  | nil => exact (Registry.withLevels_none _).symm
  | cons p steps ih =>
      have hstep : (s.after (.setLogLevel p.1 p.2)).registry
          = s.registry.withLevels fun tag => Registry.levelFor tag p.1 p.2 := by
        rw [registry_after_setLogLevel, h.leveled_eq]
      rw [List.map_cons, run_cons, ih _ (wellFormed_after s _ h), hstep,
        Registry.withLevels_withLevels]
      congr 1
      funext tag
      rw [List.reverse_cons, List.findSome?_append, List.findSome?_singleton]

/-- Setting levels in any session that a history leads to:

    1. If a level is given, and the name, if there is one, can be a key, the appenders of the tag with this
       name have the level afterwards, or those of all tags if there is no name. Nothing else is changed:
       not the levels of the others, and no layout, tag, list of appenders, class or setting.
    2. A name that can be no key is a fault, and a name that no tag has changes nothing, although events of
       this name go to the appenders of the main tag.
    3. Null only gives a notice, and a value that stands for no level only is a fault.
    4. After several steps the level of an appender is the one of the last step that gave a level and was
       meant for its tag, whatever other steps there were. -/
theorem set_level_of_targets (zone : LocalZone) (ops : List Operation) :
    let s := (initial zone).run ops
    (∀ (level name : Value) (l : Level), Level.ofValue none level = .ok (some l) →
        ¬ (name.isSet = true ∧ name.toKey? = none) →
        perform (.setLogLevel level name) s
          = .ok () { s with registry := s.registry.withLevels fun tag =>
              if Registry.isMeant name tag then some l else none })
      ∧ ((∀ (level name : Value) (l : Level), Level.ofValue none level = .ok (some l) →
            name.isSet = true → name.toKey? = none →
            perform (.setLogLevel level name) s = .error .tagNotAKey s)
        ∧ ∀ (level : Value) (name : Text) (l : Level), Level.ofValue none level = .ok (some l) →
            name ≠ [] → s.registry.loggers.has (.str name) = false →
            s.registry.route name = .str Registry.mainTag
              ∧ perform (.setLogLevel level (.str name)) s = .ok () s)
      ∧ ((∀ name, perform (.setLogLevel .null name) s
            = .ok () { s with env := s.env.report .levelMissing })
        ∧ ∀ level name f, Level.ofValue none level = .error f →
            perform (.setLogLevel level name) s = .error f s)
      ∧ ∀ steps : List (Value × Value),
          (s.run (steps.map fun p => .setLogLevel p.1 p.2)).registry
            = s.registry.withLevels fun tag =>
                steps.reverse.findSome? fun p => Registry.levelFor tag p.1 p.2 := by
  intro s
  have hw : s.registry.WellFormed := wellFormed_run (initial zone) ops Registry.wellFormed_empty
  have hset : ∀ (level name : Value) (l : Level), Level.ofValue none level = .ok (some l) →
      ¬ (name.isSet = true ∧ name.toKey? = none) →
      perform (.setLogLevel level name) s
        = .ok () { s with registry := s.registry.withLevels fun tag =>
            if Registry.isMeant name tag then some l else none } := by
    intro level name l hl hname
    have hlevel : ∀ tag, Registry.levelFor tag level name
        = if Registry.isMeant name tag then some l else none := by
      intro tag
      rw [Registry.levelFor, hl]
    rw [perform_setLogLevel, hl]
    dsimp only
    rw [if_neg hname, hw.leveled_eq]
    simp only [hlevel]
  refine ⟨hset, ⟨?_, ?_⟩, ⟨fun name => perform_setLogLevel s .null name, ?_⟩,
    registry_run_setLogLevels s hw⟩
  · intro level name l hl hs hk
    rw [perform_setLogLevel, hl]
    exact if_pos ⟨hs, hk⟩
  · intro level name l hl hne hhas
    refine ⟨if_neg (by rw [hhas]; exact Bool.false_ne_true), ?_⟩
    -- a text is spelled in one way only, so the name is no other spelling of a tag
    have hmeant : ∀ tag ∈ s.registry.loggers.keys, Registry.isMeant (.str name) tag = false := by
      intro tag hm
      refine eq_false_of_ne_true fun hmeant => ?_
      have hsame : Key.same (.str name) tag = true := by
        simpa [Registry.isMeant, Value.isSet, Value.toKey?, hne] using hmeant
      have htag := (hw.eq_tagFor_iff hm (.str name)).2 hsame
      rw [Registry.tagFor_str] at htag
      rw [htag, ← Table.has_iff_mem_keys, hhas] at hm
      cases hm
    have hself : (s.registry.withLevels fun tag =>
        if Registry.isMeant (.str name) tag then some l else none) = s.registry :=
      Registry.withLevels_eq_self fun tag hm => by simp [hmeant tag hm]
    rw [hset level (.str name) l hl (by simp [Value.toKey?]), hself]
  · intro level name f hf
    rw [perform_setLogLevel, hf]

/-- A level for a tag that is a number, named by a truth value, and steps for other names around it. -/
theorem set_level_of_targets_other_spelling :
    let c : Config :=
      { Config.empty with loggers := some (.list [.map [], .map [(Config.tagKey, .int 1)]]) }
    let s := (initial .universal).run [.configure c]
    let console := Appender.ofClass Appender.consoleClass
    let steps : List (Value × Value) :=
      [(.str "info", .null), (.str " Debug", .bool true), (.str "loud", .int 1), (.int 300, .str "web"),
        (.null, .null), (.bool true, .str "main")]
    perform (.setLogLevel (.str " Debug") (.bool true)) s
        = .ok () { s with registry := s.registry.withLevels fun tag =>
            if Registry.isMeant (.bool true) tag then some Level.debug else none }
      ∧ perform (.setLogLevel (.int 300) (.str "web")) s = .ok () s
      ∧ perform (.setLogLevel (.str "loud") (.int 1)) s = .error (.unknownLevel "loud") s
      ∧ perform (.setLogLevel (.int 300) (.list [.null])) s = .error .tagNotAKey s
      ∧ (s.run (steps.map fun p => .setLogLevel p.1 p.2)).registry.loggers
          = [(.str "main", [console 1 Appender.defaultLayout]),
              (.int 1, [console Level.debug Appender.defaultLayout])] := by
  intro c
  have hr : ((initial .universal).run [.configure c]).registry
      = (Registry.empty.configured c).1 := by
    rw [run_cons, run_nil, registry_after_configure]
    rfl
  have hsets := set_level_of_targets .universal [.configure c]
  -- nothing else is known of the session, so that no step evaluates it
  generalize (initial .universal).run [.configure c] = s at hr hsets
  intro s console steps
  obtain ⟨hset, ⟨hnokey, hunknown⟩, ⟨-, hfault⟩, hsteps⟩ := hsets
  refine ⟨hset _ _ _ rfl (by simp [Value.toKey?]),
    (hunknown _ _ _ rfl (by simp) (by rw [hr]; rfl)).2, hfault _ _ _ rfl,
    hnokey _ _ _ rfl rfl rfl, ?_⟩
  rw [hsteps, hr]
  rfl

end Session
end EventLog

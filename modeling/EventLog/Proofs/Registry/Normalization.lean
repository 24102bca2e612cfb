import EventLog.Proofs.Registry.Acceptance
import EventLog.Proofs.Registry.Atomicity

set_option autoImplicit false

/-! # Configurations with their names resolved

A configuration may be given to the registry as it is or with its names resolved before. The registry
reads levels itself, but not the names of appenders, and it insists on mappings where resolving takes
other things for mappings as well. So resolving may turn a configuration that is refused into one that is
accepted, but not the other way round: what the registry accepts is resolved without a fault, and each
definition makes the same appenders as before (`define_of_resolveDefinition`). A level that is missing
and one that is null come to the same, and a level that was read is a number that is read as itself.

A configuration is normal if nothing in it is given by name. Resolving makes a configuration normal
(`isNormal_of_normalize`) and leaves a normal one alone (`normalize_of_isNormal`). The main statement is
`configure_normalized`. -/

namespace EventLog

/-! ## Levels that are read twice -/

namespace Level

theorem isSome_truncate? {x : Float} {m : Nat} {e : Int} (h : Double.magnitude x = .finite m e) :
    (Double.truncate? x).isSome = true := by
  rw [Double.truncate?, h]
  rfl

/-- The default counts exactly if no level is given. -/
theorem ofValue_eq_map (default : Option Level) (v : Value) :
    ofValue default v = (ofValue none v).map (·.or default) := by
  cases v with
  | float x =>
      rw [ofValue, ofValue]
      cases h : Double.magnitude x with
      | finite m e =>
          obtain ⟨n, hn⟩ := Option.isSome_iff_exists.1 (isSome_truncate? h)
          simp [hn, Except.map]
      | _ => rfl
  | str t =>
      rw [ofValue, ofValue]
      cases ofName? t <;> rfl
  | _ => rfl

/-- A level as it is written once it is read: a number, or null. -/
def written (level : Option Level) : Value :=
  (level.map Value.int).getD .null

@[simp] theorem ofValue_written (level : Option Level) : ofValue none (written level) = .ok level := by
  cases level <;> rfl

end Level

/-! ## Lists that are read item by item -/

section

variable {α β : Type} {f : α → Except Fault β} {as : List α}

/-- Each result is what the function gives on some item. -/
theorem exists_of_mem_mapM {bs : List β} (h : as.mapM f = .ok bs) :
    ∀ b ∈ bs, ∃ a ∈ as, f a = .ok b := by
  induction as generalizing bs with
  | nil =>
      obtain rfl := Except.ok.inj h
      simp
  | cons a rest ih =>
      rw [List.mapM_cons] at h
      cases ha : f a with
      | error e =>
          rw [ha] at h
          cases h
      | ok b =>
          cases hr : rest.mapM f with
          | error e =>
              rw [ha, hr] at h
              cases h
          | ok bs' =>
              rw [ha, hr] at h
              obtain rfl := Except.ok.inj h
              refine List.forall_mem_cons.2 ⟨⟨a, by simp, ha⟩, fun b' hb' => ?_⟩
              obtain ⟨a', hm, ha'⟩ := ih hr b' hb'
              exact ⟨a', List.mem_cons_of_mem _ hm, ha'⟩

/-- Without a fault the results belong to the items one by one. -/
theorem forall₂_of_upToFault (h : (upToFault f as).2 = none) :
    List.Forall₂ (fun a b => f a = .ok b) as (upToFault f as).1 := by
  induction as with
  | nil => exact .nil
  | cons a rest ih =>
      rw [upToFault] at h ⊢
      cases ha : f a with
      | error e =>
          rw [ha] at h
          cases h
      | ok b =>
          rw [ha] at h
          exact .cons ha (ih h)

/-- Without a fault every item is read. -/
theorem exists_of_upToFault (h : (upToFault f as).2 = none) : ∀ a ∈ as, ∃ b, f a = .ok b := by
  have hall := forall₂_of_upToFault h
  clear h
  generalize (upToFault f as).1 = bs at hall
  induction hall with
  | nil => simp
  | cons ha _ ih => exact List.forall_mem_cons.2 ⟨⟨_, ha⟩, ih⟩

end

/-- Writing what is written under a key already changes nothing. -/
theorem Entries.put_of_get? (es : Entries) (key : Key) (v : Value) (h : es.get? key = some v) :
    es.put key v = es := by
  induction es with
  | nil => cases h
  | cons p rest ih =>
      rw [get?] at h
      by_cases hk : p.1.same key = true
      · rw [if_pos hk] at h
        obtain rfl := Option.some.inj h
        rw [put, if_pos hk]
      · rw [if_neg hk] at h
        rw [put, if_neg hk, ih h]

/-! ## Nothing is left to resolve -/

namespace Config

/-- A candidate that is no name. -/
def NoName (a : Candidate) : Prop :=
  ∀ name, a ≠ .value (.str name)

/-- A mapping whose level, if it has one, is a number or null. -/
def NumericLevel (d : Value) : Prop :=
  ∃ es : Entries, d = .map es ∧ ∀ v, es.get? levelKey = some v → ∃ level, v = Level.written level

/-- A configuration in which nothing is given by name. -/
structure IsNormal (c : Config) : Prop where
  appenders : ∀ as, c.appenders = some (.list as) → ∀ a ∈ as, NoName a
  definitions : ∀ ds, c.loggers = some (.list ds) → ∀ d ∈ ds, NumericLevel d

theorem resolveAppender_of_noName {a : Candidate} (h : NoName a) : resolveAppender a = .ok a := by
  unfold resolveAppender
  split
  · rename_i name
    exact absurd rfl (h name)
  · rfl

theorem noName_of_resolveAppender {a b : Candidate} (h : resolveAppender a = .ok b) : NoName b := by
  unfold resolveAppender at h
  split at h
  · split at h
    · obtain rfl := Except.ok.inj h
      intro name e
      cases e
    · cases h
  · rename_i hn
    obtain rfl := Except.ok.inj h
    exact fun name e => hn name e

theorem resolveDefinition_of_no_level {es : Entries} (h : es.get? levelKey = none) :
    resolveDefinition (.map es) = .ok (.map es) := by
  rw [resolveDefinition_map, h]

/-- A level is written back under its key as it was read. -/
theorem resolveDefinition_of_level {es : Entries} {v : Value} (h : es.get? levelKey = some v) :
    resolveDefinition (.map es)
      = (Level.ofValue none v).map fun level => .map (es.put levelKey (Level.written level)) := by
  rw [resolveDefinition_map, h]
  dsimp only
  cases Level.ofValue none v <;> rfl

theorem resolveDefinition_of_numericLevel {d : Value} (h : NumericLevel d) :
    resolveDefinition d = .ok d := by
  obtain ⟨es, rfl, hlevel⟩ := h
  cases hl : es.get? levelKey with
  | none => exact resolveDefinition_of_no_level hl
  | some v =>
      obtain ⟨level, rfl⟩ := hlevel v hl
      rw [resolveDefinition_of_level hl, Level.ofValue_written]
      show Except.ok (Value.map _) = _
      rw [Entries.put_of_get? _ _ _ hl]

/-- What stands for a mapping is resolved like this mapping, and nothing else is. -/
theorem resolveDefinition_eq (v : Value) :
    resolveDefinition v
      = (if v.isSet then v else .map []).toMapping >>= fun es => resolveDefinition (.map es) := by
  rw [resolveDefinition]
  congr 1
  funext es
  rw [resolveDefinition_map]
  cases es.get? levelKey with
  | none => rfl
  | some l =>
      dsimp only
      cases Level.ofValue none l with
      | error f => rfl
      | ok level => cases level <;> rfl

theorem numericLevel_of_resolveDefinition {v d : Value} (h : resolveDefinition v = .ok d) :
    NumericLevel d := by
  rw [resolveDefinition_eq] at h
  cases hm : (if v.isSet then v else .map []).toMapping with
  | error f =>
      rw [hm] at h
      cases h
  | ok es =>
      rw [hm, ok_bind] at h
      cases hl : es.get? levelKey with
      | none =>
          rw [resolveDefinition_of_no_level hl] at h
          obtain rfl := Except.ok.inj h
          exact ⟨es, rfl, fun w hw => by rw [hl] at hw; cases hw⟩
      | some w =>
          rw [resolveDefinition_of_level hl] at h
          cases ho : Level.ofValue none w with
          | error f =>
              rw [ho] at h
              cases h
          | ok level =>
              rw [ho] at h
              obtain rfl := Except.ok.inj h
              refine ⟨_, rfl, fun u hu => ⟨level, ?_⟩⟩
              rw [Entries.get?_put_self] at hu
              exact (Option.some.inj hu).symm

/-- What is normal is left alone. -/
theorem normalize_of_isNormal {c : Config} (h : c.IsNormal) : normalize c = .ok c := by
  obtain ⟨layout, injection, appenders, loggers, others⟩ := c
  have happenders : resolveAppenders appenders = .ok appenders := by
    unfold resolveAppenders
    split
    · rename_i as
      rw [mapM_of_forall₂ (List.forall₂_same.2 fun a ha =>
        resolveAppender_of_noName (h.appenders as rfl a ha)), ok_bind]
    · rfl
  have hloggers : resolveDefinitions loggers = .ok loggers := by
    unfold resolveDefinitions
    split
    · rename_i ds
      rw [mapM_of_forall₂ (List.forall₂_same.2 fun d hd =>
        resolveDefinition_of_numericLevel (h.definitions ds rfl d hd)), ok_bind]
    · rfl
  rw [normalize_eq, happenders, hloggers]
  rfl

theorem noName_of_resolveAppenders {setting : Option AppenderSetting} {as : List Candidate}
    (h : resolveAppenders setting = .ok (some (.list as))) : ∀ a ∈ as, NoName a := by
  unfold resolveAppenders at h
  split at h
  · rename_i cs
    cases hm : cs.mapM resolveAppender with
    | error f =>
        rw [hm] at h
        cases h
    | ok bs =>
        rw [hm] at h
        obtain rfl : bs = as := by simpa [ok_bind] using h
        intro a ha
        obtain ⟨b, -, hb⟩ := exists_of_mem_mapM hm a ha
        exact noName_of_resolveAppender hb
  · rename_i hn
    exact absurd (Except.ok.inj h) (hn as)

theorem numericLevel_of_resolveDefinitions {loggers : Option Value} {ds : List Value}
    (h : resolveDefinitions loggers = .ok (some (.list ds))) : ∀ d ∈ ds, NumericLevel d := by
  unfold resolveDefinitions at h
  split at h
  · rename_i vs
    cases hm : vs.mapM resolveDefinition with
    | error f =>
        rw [hm] at h
        cases h
    | ok bs =>
        rw [hm] at h
        obtain rfl : bs = ds := by simpa [ok_bind] using h
        intro d hd
        obtain ⟨v, -, hv⟩ := exists_of_mem_mapM hm d hd
        exact numericLevel_of_resolveDefinition hv
  · rename_i hn
    exact absurd (Except.ok.inj h) (hn ds)

/-- Resolving leaves nothing that is given by name. -/
theorem isNormal_of_normalize {c c' : Config} (h : normalize c = .ok c') : c'.IsNormal := by
  rw [normalize_eq] at h
  cases ha : resolveAppenders c.appenders with
  | error f =>
      rw [ha] at h
      cases h
  | ok appenders =>
      cases hl : resolveDefinitions c.loggers with
      | error f =>
          rw [ha, hl] at h
          cases h
      | ok loggers =>
          rw [ha, hl] at h
          obtain rfl := Except.ok.inj h
          constructor
          · rintro as rfl
            exact noName_of_resolveAppenders ha
          · rintro ds rfl
            exact numericLevel_of_resolveDefinitions hl

end Config

/-! ## What is accepted can be resolved, and means the same -/

namespace Registry

/-- Tag and layout of a definition do not depend on its level. -/
theorem tagOf_put_level (es : Entries) (v : Value) : tagOf (es.put Config.levelKey v) = tagOf es := by
  rw [tagOf, tagOf, Entries.get?_put_of_not_same _ _ (by decide)]

theorem layoutOf_put_level (es : Entries) (v : Value) (settings : Configuration) :
    layoutOf (es.put Config.levelKey v) settings = layoutOf es settings := by
  rw [layoutOf, layoutOf, Entries.get?_put_of_not_same _ _ (by decide)]

/-- A definition makes the same appenders before and after its level is resolved. -/
theorem define_of_resolveDefinition {es : Entries} {d : Value}
    (h : Config.resolveDefinition (.map es) = .ok d) (settings : Configuration) :
    define settings d = define settings (.map es) := by
  cases hl : es.get? Config.levelKey with
  | none =>
      rw [Config.resolveDefinition_of_no_level hl] at h
      obtain rfl := Except.ok.inj h
      rfl
  | some v =>
      rw [Config.resolveDefinition_of_level hl] at h
      cases ho : Level.ofValue none v with
      | error f =>
          rw [ho] at h
          cases h
      | ok level =>
          rw [ho] at h
          obtain rfl := Except.ok.inj h
          have hread : Level.ofValue (some Level.error) (Level.written level)
              = Level.ofValue (some Level.error) v := by
            rw [Level.ofValue_eq_map, Level.ofValue_eq_map _ v, ho, Level.ofValue_written]
          funext o
          rw [define_map, define_map, Entries.get?_put_self, hl, tagOf_put_level,
            layoutOf_put_level]
          simp only [Option.getD_some, hread]

/-- A definition that the registry accepts can be resolved. -/
theorem exists_resolveDefinition_of_define {settings : Configuration} {d : Value} {o o' : Office}
    (h : define settings d o = .ok () o') :
    ∃ d', Config.resolveDefinition d = .ok d' ∧ define settings d' = define settings d := by
  cases d with
  | map es =>
      suffices hd : ∃ d', Config.resolveDefinition (.map es) = .ok d' by
        obtain ⟨d', hd⟩ := hd
        exact ⟨d', hd, define_of_resolveDefinition hd settings⟩
      cases hl : Entries.get? es Config.levelKey with
      | none => exact ⟨_, Config.resolveDefinition_of_no_level hl⟩
      | some v =>
          rw [Config.resolveDefinition_of_level hl]
          cases ho : Level.ofValue none v with
          | error f =>
              -- the registry would have met the same fault
              rw [define_map, hl, Option.getD_some, Level.ofValue_eq_map, ho] at h
              cases h
          | ok level => exact ⟨_, rfl⟩
  | _ => cases h

/-- Definitions that the registry accepts one after the other can all be resolved. -/
theorem exists_resolve_of_defineAll {settings : Configuration} {ds : List Value} {o o' : Office}
    (h : defineAll settings ds o = .ok () o') :
    ∃ ds', ds.mapM Config.resolveDefinition = .ok ds'
      ∧ defineAll settings ds' = defineAll settings ds := by
  induction ds generalizing o with
  | nil => exact ⟨[], rfl, rfl⟩
  | cons d rest ih =>
      rw [defineAll, bind_apply] at h
      cases hd : define settings d o with
      | error f o₁ =>
          rw [hd] at h
          cases h
      | ok u o₁ =>
          rw [hd] at h
          obtain ⟨d', hd', hdefine⟩ := exists_resolveDefinition_of_define hd
          obtain ⟨rest', hrest', hall⟩ := ih h
          refine ⟨d' :: rest', ?_, ?_⟩
          · rw [List.mapM_cons, hd', hrest']
            rfl
          · rw [defineAll, defineAll, hdefine, hall]

theorem exists_resolve_of_defineLoggers {settings : Configuration} {loggers : Option Value}
    {o o' : Office} (h : defineLoggers settings loggers o = .ok () o') :
    ∃ loggers', Config.resolveDefinitions loggers = .ok loggers'
      ∧ defineLoggers settings loggers' = defineLoggers settings loggers := by
  unfold defineLoggers at h
  split at h
  · rename_i ds
    obtain ⟨ds', hds, hall⟩ := exists_resolve_of_defineAll h
    refine ⟨some (.list ds'), ?_, hall⟩
    rw [Config.resolveDefinitions, hds]
    rfl
  · cases h

/-- Appenders that the registry accepts are not given by name. -/
theorem resolveAppenders_of_addAppenders {setting : Option AppenderSetting} {o o' : Office}
    (hr : o.registry.refusesClasses = false)
    (h : addAppenders (candidates setting) o = .ok () o') :
    Config.resolveAppenders setting = .ok setting := by
  rw [addAppenders_eq _ _ hr] at h
  cases hf : (upToFault accept (candidates setting)).2 with
  | some f =>
      rw [hf] at h
      cases h
  | none =>
      have hall := exists_of_upToFault hf
      unfold Config.resolveAppenders
      split
      · rename_i as
        have hnames : ∀ a ∈ as, Config.resolveAppender a = .ok a := by
          intro a ha
          obtain ⟨p, hp⟩ := hall a ha
          refine Config.resolveAppender_of_noName ?_
          rintro name rfl
          cases hp
        rw [mapM_of_forall₂ (List.forall₂_same.2 hnames), ok_bind]
      · rfl

/-- A configuration that a registry accepts before the first delivery can be resolved, and does the same
    then. -/
theorem exists_normalize_of_configure {c : Config} {o o' : Office} (hf : o.registry.frozen = false)
    (h : configure c o = .ok () o') :
    ∃ c', Config.normalize c = .ok c' ∧ configure c' o = configure c o := by
  let new := settings o.registry.configuration.join c
  let o₁ : Office := { o with registry := { o.registry with configuration := some (some new) } }
  have hr : o₁.registry.refusesClasses = false := by
    show (o.registry.frozen && _) = false
    rw [hf, Bool.false_and]
  rw [configure_of_not_frozen c o hf, bind_apply] at h
  cases ha : addAppenders (candidates c.appenders) o₁ with
  | error f o₂ =>
      rw [ha] at h
      cases h
  | ok u o₂ =>
      rw [ha] at h
      have happenders := resolveAppenders_of_addAppenders hr ha
      obtain ⟨loggers', hl, hdefine⟩ := exists_resolve_of_defineLoggers h
      refine ⟨{ c with loggers := loggers' }, ?_, ?_⟩
      · rw [Config.normalize_eq, happenders, hl]
        rfl
      · rw [configure_of_not_frozen _ o hf, configure_of_not_frozen c o hf]
        show (_ >>= fun _ => defineLoggers new loggers') _ = _
        rw [hdefine]
        rfl

end Registry

namespace Session

/-- A configuration and what comes of it when its names are resolved:

    1. If it is accepted before the first delivery since the last reset, it can be resolved, and what comes
       of it is accepted too and leads to the same session: settings, classes, tags and appenders are the
       same, and so are the layouts that are kept and the notices.
    2. If it can be resolved, nothing is left to resolve, and resolving once more changes nothing. -/
theorem configure_normalized (c : Config) :
    (∀ s s' : Session, s.registry.frozen = false → perform (.configure c) s = .ok () s' →
        ∃ c', Config.normalize c = .ok c' ∧ perform (.configure c') s = .ok () s')
      ∧ ∀ c', Config.normalize c = .ok c' → c'.IsNormal ∧ Config.normalize c' = .ok c' := by
  constructor
  · intro s s' hf h
    rw [perform, inOffice] at h
    cases hc : Registry.configure c s.office with
    | error f o =>
        rw [hc] at h
        cases h
    | ok u o =>
        obtain ⟨c', hc', hsame⟩ := Registry.exists_normalize_of_configure hf hc
        refine ⟨c', hc', ?_⟩
        rw [perform, inOffice, hsame]
        exact h
  · intro c' h
    have hn := Config.isNormal_of_normalize h
    exact ⟨hn, Config.normalize_of_isNormal hn⟩

/-- A level that is given by name, one that is null, and a definition without entries. -/
theorem configure_normalized_levels :
    let s := initial .universal
    let definition (level : Value) : Value := .map [(Config.levelKey, level), (Config.tagKey, .str "db")]
    let config (level : Value) : Config :=
      { Config.empty with
        appenders := some (.list [.cls Appender.consoleClass])
        loggers := some (.list [definition level, definition .null, .map []]) }
    let s' := s.after (.configure (config (.str " debug")))
    s.registry.frozen = false
      ∧ perform (.configure (config (.str " debug"))) s = .ok () s'
      ∧ Config.normalize (config (.str " debug")) = .ok (config (.int 500))
      ∧ perform (.configure (config (.int 500))) s = .ok () s'
      ∧ Config.normalize (config (.int 500)) = .ok (config (.int 500)) := by
  intro s definition config s'
  have hperform : perform (.configure (config (.str " debug"))) s = .ok () s' :=
    perform_configure s _ rfl
  have hnormalize : Config.normalize (config (.str " debug")) = .ok (config (.int 500)) := rfl
  obtain ⟨haccepted, hnormal⟩ := configure_normalized (config (.str " debug"))
  obtain ⟨c', hc', hp⟩ := haccepted s s' rfl hperform
  obtain rfl := Except.ok.inj (hnormalize.symm.trans hc')
  exact ⟨rfl, hperform, hnormalize, hp, (hnormal _ hnormalize).2⟩

end Session
end EventLog

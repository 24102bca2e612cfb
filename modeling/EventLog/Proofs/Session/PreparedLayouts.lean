import EventLog.Proofs.Rendering.KeptLayouts
import EventLog.Proofs.Session.Freeze
import EventLog.Proofs.Session.Routing

set_option autoImplicit false

/-! # Layouts are prepared before an event needs them

An appender is given its layout when its tag is configured, and the layout is compiled then, unless it is
kept. No operation of a session drops a kept layout, so wherever an appender comes from, its layout is
kept as long as it is attached to a tag (`Office.Ready`), and also after a configuration that ended with
a fault. A delivery formats events by these layouts only, so it finds all of them and compiles nothing
(`layouts_prepared_before_delivery`). -/

namespace EventLog

/-! ## Kept layouts become more -/

namespace Environment

/-- Whether what is kept in an environment is still kept in another one, which is sound if the first
    one is. -/
structure Grows (env env' : Environment) : Prop where
  kept : ∀ layout, env.cache.has layout = true → env'.cache.has layout = true
  sound : env.cache.Sound → env'.cache.Sound

theorem Grows.refl (env : Environment) : env.Grows env :=
  ⟨fun _ h => h, fun h => h⟩

theorem Grows.trans {env env' env'' : Environment} (h : env.Grows env') (h' : env'.Grows env'') :
    env.Grows env'' :=
  ⟨fun layout hk => h'.kept layout (h.kept layout hk), fun hs => h'.sound (h.sound hs)⟩

theorem grows_report (env : Environment) (n : Notice) : env.Grows (env.report n) :=
  ⟨fun _ h => h, fun h => h⟩

theorem grows_fetch (env : Environment) (layout : Text) : env.Grows (env.fetch layout).2 := by
  refine ⟨fun other h => ?_, fun h => env.sound_fetch h layout⟩
  unfold fetch
  split
  · exact h
  · rw [Table.has_iff_mem_keys] at h ⊢
    show other ∈ (env.cache.put layout (Layout.compile layout)).keys
    rw [Table.keys_put]
    split
    · exact h
    · exact List.mem_append_left _ h

/-- What was fetched is kept. -/
theorem has_fetch (env : Environment) (layout : Text) :
    (env.fetch layout).2.cache.has layout = true := by
  rw [Table.has, (env.fetch_cache layout).1, Cache.get?_fetch]
  rfl

/-- Whether nothing was compiled from one environment to another, and the same is kept. -/
structure CompilesNothing (env env' : Environment) : Prop where
  cache : env'.cache = env.cache
  compilations : env'.compilations = env.compilations

theorem CompilesNothing.refl (env : Environment) : env.CompilesNothing env :=
  ⟨rfl, rfl⟩

theorem CompilesNothing.trans {env env' env'' : Environment} (h : env.CompilesNothing env')
    (h' : env'.CompilesNothing env'') : env.CompilesNothing env'' :=
  ⟨h'.cache.trans h.cache, h'.compilations.trans h.compilations⟩

/-- Only notices about compilations count. -/
theorem compilesNothing_of_notices {env env' : Environment} {notices : List Notice}
    (hc : env'.cache = env.cache) (hn : env'.notices = env.notices ++ notices)
    (h : ∀ n ∈ notices, n.isCompilation = false) : env.CompilesNothing env' := by
  refine ⟨hc, ?_⟩
  have hz : notices.countP Notice.isCompilation = 0 :=
    List.countP_eq_zero.2 fun n m => by simp [h n m]
  rw [compilations, compilations, hn, List.countP_append, hz, Nat.add_zero]

end Environment

/-! ## Deliveries compile nothing -/

/-- Formatting by a kept layout compiles nothing. -/
theorem Layout.compilesNothing_format (layout : Text) (s : Scene)
    (h : s.env.cache.has layout = true) :
    s.env.CompilesNothing (finalState (format layout s)).env := by
  obtain ⟨env, e⟩ := s
  have henv : (finalState (format layout ⟨env, e⟩)).env = env.after (.format layout e) := by
    rw [Environment.after]
    cases format layout ⟨env, e⟩ <;> rfl
  obtain ⟨segments, hs⟩ := Option.isSome_iff_exists.1 h
  have hf : (env.fetch layout).2 = env := by
    rw [Environment.fetch, hs]
  obtain ⟨provider, notices, hn, ha⟩ := env.after_format_eq layout e
  rw [henv, ha, hf]
  exact Environment.compilesNothing_of_notices rfl rfl hn

namespace Appender

theorem compilesNothing_writeLine (env : Environment) (level : Int) (t : Text) :
    env.CompilesNothing (writeLine env level t) := by
  rw [writeLine_eq]
  exact ⟨rfl, rfl⟩

/-- An appender formats an event by its own layout, if at all. -/
theorem compilesNothing_append (a : Appender) (s : Scene) (h : s.env.cache.has a.layout = true) :
    s.env.CompilesNothing (finalState (a.append s)).env :=
  keeps_append (P := s.env.CompilesNothing)
    (fun env level t hp => hp.trans (compilesNothing_writeLine env level t))
    (fun s' hp => hp.trans (Layout.compilesNothing_format a.layout s' (hp.cache ▸ h))) s (.refl s.env)

/-- A delivery to appenders whose layouts are kept compiles nothing, wherever it ends. -/
theorem compilesNothing_appendAll (as : List Appender) (s : Scene)
    (h : ∀ a ∈ as, s.env.cache.has a.layout = true) :
    s.env.CompilesNothing (appendAll as s).2.2.env :=
  keeps_appendAll (P := s.env.CompilesNothing)
    (fun env level t hp => hp.trans (compilesNothing_writeLine env level t))
    (fun a ha s' hp => hp.trans (Layout.compilesNothing_format a.layout s' (hp.cache ▸ h a ha))) s
    (.refl s.env)

end Appender

/-! ## Every layout in use is kept -/

namespace Registry

/-- The layouts of all appenders. -/
def layouts (r : Registry) : List Text :=
  (r.view Appender.layout).flatMap (·.2)

theorem mem_layouts (r : Registry) (layout : Text) :
    layout ∈ r.layouts ↔ ∃ p ∈ r.loggers, ∃ a ∈ p.2, a.layout = layout := by
  simp [layouts, view, Table.mapValues]

theorem layouts_bare (r : Registry) : r.bare.layouts = r.layouts := by
  rw [layouts, layouts, view_bare _ fun _ => rfl]

theorem layouts_leveled (r : Registry) (level tag : Value) :
    (r.leveled level tag).layouts = r.layouts := by
  rw [layouts, layouts, view_leveled _ fun _ _ => rfl]

/-- The appenders that receive the events of a logger are appenders of a tag. -/
theorem layout_mem_of_mem_audience {r : Registry} {logger : Text} {a : Appender}
    (h : a ∈ r.audience logger) : a.layout ∈ r.layouts := by
  have hfound : ∀ {tag : Key} {as : List Appender}, r.loggers.get? tag = some as → a ∈ as →
      a.layout ∈ r.layouts := fun hg ha =>
    (r.mem_layouts _).2 ⟨_, Table.mem_of_get? _ hg, a, ha, rfl⟩
  unfold audience at h
  split at h
  · rename_i own _ hown
    exact hfound hown h
  · rename_i main _ hmain
    exact hfound hmain h
  · cases h

end Registry

/-- Whether the layout of every appender is kept, and whatever is kept is what compiling gives. -/
structure Office.Ready (o : Office) : Prop where
  prepared : ∀ layout ∈ o.registry.layouts, o.env.cache.has layout = true
  sound : o.env.cache.Sound

namespace Office

theorem ready_empty {env : Environment} (h : env.cache.Sound) : Ready ⟨env, .empty⟩ := by
  refine ⟨fun layout m => ?_, h⟩
  cases m

/-- More kept layouts and no other appenders do no harm. -/
theorem Ready.mono {o o' : Office} (h : o.Ready) (hg : o.env.Grows o'.env)
    (hl : o'.registry.layouts = o.registry.layouts) : o'.Ready :=
  ⟨fun layout m => hg.kept layout (h.prepared layout (hl ▸ m)), hg.sound h.sound⟩

/-- Appenders can be entered for a tag if their layouts are kept. -/
theorem Ready.withEntry {o : Office} (h : o.Ready) (p : Key × List Appender)
    (hp : ∀ a ∈ p.2, o.env.cache.has a.layout = true) :
    Ready ⟨o.env, o.registry.withEntry p⟩ := by
  refine ⟨fun layout m => ?_, h.sound⟩
  obtain ⟨q, hq, a, ha, rfl⟩ := (Registry.mem_layouts _ _).1 m
  rcases Table.mem_put _ _ _ _ hq with rfl | hq
  · exact hp a ha
  · exact h.prepared _ ((Registry.mem_layouts _ _).2 ⟨q, hq, a, ha, rfl⟩)

end Office

namespace Registry

/-! ## Configuring keeps the layouts that it gives to appenders -/

theorem ready_addAppender (candidate : Candidate) (o : Office) (h : o.Ready) :
    (finalState (addAppender candidate o)).Ready := by
  by_cases hr : o.registry.refusesClasses = true
  · rw [addAppender_of_refuses candidate o hr]
    exact h.mono (o.env.grows_report _) rfl
  · rw [addAppender_of_accepts candidate o (eq_false_of_ne_true hr)]
    cases accept candidate with
    | error f => exact h
    | ok p =>
        refine h.mono (.refl o.env) ?_
        show (o.registry.addClass p.1 p.2).layouts = _
        rw [addClass_eq]
        rfl

theorem ready_addAppenders (cs : List Candidate) (o : Office) (h : o.Ready) :
    (finalState (addAppenders cs o)).Ready := by
  induction cs generalizing o with
  | nil => exact h
  | cons c rest ih =>
      exact finalState_bind (ready_addAppender c) (fun _ => ih) o h

/-- Making appenders compiles their layout, unless it is kept. -/
theorem grows_makeAppenders (level : Int) (layout : Value) (classes : List AppenderClass)
    (env : Environment) :
    env.Grows (finalState (makeAppenders level layout classes env))
      ∧ ∀ as env', makeAppenders level layout classes env = .ok as env' →
          ∀ a ∈ as, env'.cache.has a.layout = true := by
  induction classes generalizing env with
  | nil =>
      refine ⟨.refl env, fun as env' h a ha => ?_⟩
      obtain ⟨rfl, -⟩ := EStateM.Result.ok.inj h
      cases ha
  | cons c rest ih =>
      cases layout with
      | str t =>
          obtain ⟨hgrows, hkept⟩ := ih (env.fetch t).2
          have hfetch := env.grows_fetch t
          rw [makeAppenders_cons]
          cases hm : makeAppenders level (.str t) rest (env.fetch t).2 with
          | error f env₁ =>
              rw [hm] at hgrows
              exact ⟨hfetch.trans hgrows, fun as env' h => by cases h⟩
          | ok others env₁ =>
              rw [hm] at hgrows
              refine ⟨hfetch.trans hgrows, fun as env' h a ha => ?_⟩
              obtain ⟨rfl, rfl⟩ := EStateM.Result.ok.inj h
              rcases List.mem_cons.1 ha with rfl | ha
              · exact hgrows.kept t (env.has_fetch t)
              · exact hkept others env₁ hm a ha
      | _ => exact ⟨.refl env, fun as env' h => by cases h⟩

theorem ready_define (settings : Configuration) (d : Value) (o : Office) (h : o.Ready) :
    (finalState (define settings d o)).Ready := by
  cases d with
  | map es =>
      rw [define_map]
      cases Level.ofValue (some Level.error) ((Entries.get? es Config.levelKey).getD .null) with
      | error f => exact h
      | ok level =>
          obtain ⟨hgrows, hkept⟩ := grows_makeAppenders (level.getD Level.error)
            (layoutOf es settings) o.registry.classList o.env
          dsimp only
          cases hm : makeAppenders (level.getD Level.error) (layoutOf es settings)
              o.registry.classList o.env with
          | error f env =>
              rw [hm] at hgrows
              exact h.mono hgrows rfl
          | ok appenders env =>
              rw [hm] at hgrows
              have henv : Office.Ready ⟨env, o.registry⟩ := h.mono hgrows rfl
              dsimp only
              cases (tagOf es).toKey? with
              | none => exact henv
              | some tag => exact henv.withEntry (tag, appenders) (hkept appenders env hm)
  | _ => exact h

theorem ready_defineAll (settings : Configuration) (ds : List Value) (o : Office) (h : o.Ready) :
    (finalState (defineAll settings ds o)).Ready := by
  induction ds generalizing o with
  | nil => exact h
  | cons d rest ih => exact finalState_bind (ready_define settings d) (fun _ => ih) o h

theorem ready_defineLoggers (settings : Configuration) (loggers : Option Value) (o : Office)
    (h : o.Ready) : (finalState (defineLoggers settings loggers o)).Ready := by
  unfold defineLoggers
  split
  · exact ready_defineAll settings _ o h
  · exact h

theorem ready_configure (c : Config) (o : Office) (h : o.Ready) :
    (finalState (configure c o)).Ready := by
  by_cases hf : o.registry.frozen = true
  · rw [configure_of_frozen c o hf]
    exact h.mono (o.env.grows_report _) rfl
  · rw [configure_of_not_frozen c o (eq_false_of_ne_true hf)]
    exact finalState_bind (ready_addAppenders _) (fun _ => ready_defineLoggers _ _) _
      (h.mono (.refl o.env) rfl)

/-- A delivery compiles nothing if the layouts of all appenders are kept. -/
theorem compilesNothing_deliver (e : Event) (o : Office) (h : o.Ready) :
    o.env.CompilesNothing (finalState (deliver e o)).env := by
  rw [deliver_eq, finalState_ended]
  exact Appender.compilesNothing_appendAll _ ⟨o.env, e⟩ fun a ha =>
    h.prepared a.layout (layout_mem_of_mem_audience ha)

theorem ready_deliver (e : Event) (o : Office) (h : o.Ready) :
    (finalState (deliver e o)).Ready := by
  have hcache := (compilesNothing_deliver e o h).cache
  have hgrows : o.env.Grows (finalState (deliver e o)).env :=
    ⟨fun _ hk => hcache ▸ hk, fun hs => hcache ▸ hs⟩
  refine h.mono hgrows ?_
  rw [← layouts_bare, bare_deliver]
  exact layouts_bare o.registry

theorem ready_misconfigure (o : Office) (h : o.Ready) : (finalState (misconfigure o)).Ready := by
  unfold misconfigure
  split
  · exact h.mono (o.env.grows_report _) rfl
  · exact h.mono (.refl o.env) rfl

theorem ready_setLogLevel (level tag : Value) (o : Office) (h : o.Ready) :
    (finalState (setLogLevel level tag o)).Ready := by
  have hgrows : o.env.Grows (finalState (setLogLevel level tag o)).env := by
    unfold setLogLevel
    split
    · exact .refl o.env
    · exact o.env.grows_report _
    · split
      · split <;> exact .refl o.env
      · exact .refl o.env
  refine h.mono hgrows ?_
  rw [finalState_setLogLevel]
  exact layouts_leveled o.registry level tag

end Registry

/-! ## Histories -/

namespace Session

/-- A log call compiles nothing if the layouts of all appenders are kept. -/
theorem compilesNothing_log (s : Session) (h : s.office.Ready) (handle : Nat) (call : Call)
    (level : Int) (message : Value) (args : List Value) :
    s.env.CompilesNothing (s.after (.log handle call level message args)).env := by
  cases hl : s.loggers[handle]? with
  | none =>
      rw [s.after_log_of_unknown hl]
      exact .refl s.env
  | some l =>
      -- the notices of the logger come before the delivery, and are not about compilations
      have hn : ∀ n ∈ (l.log call level message args).2.1, n.isCompilation = false := by
        intro n m
        obtain ⟨v, -, hv⟩ := List.mem_filterMap.1 m
        cases v <;> simp_all [Logger.surplus?] <;> subst hv <;> rfl
      let env : Environment :=
        { s.env with notices := s.env.notices ++ (l.log call level message args).2.1 }
      have hnotices : s.env.CompilesNothing env :=
        Environment.compilesNothing_of_notices rfl rfl hn
      have hready : Office.Ready ⟨env, s.registry⟩ := ⟨h.prepared, h.sound⟩
      have hdeliver := Registry.compilesNothing_deliver (l.log call level message args).1 _ hready
      rw [← s.office_after_log hl] at hdeliver
      exact hnotices.trans hdeliver

/-- After every operation, however it ends, the layouts of all appenders are kept, if they were
    before. -/
theorem ready_after (s : Session) (op : Operation) (h : s.office.Ready) :
    (s.after op).office.Ready := by
  cases op with
  | configure c =>
      rw [after_eq_finalState, perform, finalState_inOffice]
      exact Registry.ready_configure c s.office h
  | misconfigure =>
      rw [after_eq_finalState, perform, finalState_inOffice]
      exact Registry.ready_misconfigure s.office h
  | addAppender candidate =>
      rw [after_eq_finalState, perform, finalState_inOffice]
      exact Registry.ready_addAppender candidate s.office h
  | getLogger context stack ticks =>
      have hoffice : (s.after (.getLogger context stack ticks)).office
          = finalState (Registry.ensureConfigured s.office) := by
        rw [after_eq_finalState, perform, getLogger, bind_apply, inOffice]
        cases Registry.ensureConfigured s.office <;> rfl
      rw [hoffice, Registry.ensureConfigured_apply]
      split
      · exact Registry.ready_configure _ s.office h
      · exact h
  | log handle call level message args =>
      cases hl : s.loggers[handle]? with
      | none =>
          rw [s.after_log_of_unknown hl]
          exact h
      | some l =>
          rw [s.office_after_log hl]
          exact Registry.ready_deliver _ _ ⟨h.prepared, h.sound⟩
  | setLogLevel level tag =>
      rw [after_eq_finalState, perform, finalState_inOffice]
      exact Registry.ready_setLogLevel level tag s.office h
  | install source => exact ⟨h.prepared, h.sound⟩
  | reset => exact Office.ready_empty h.sound

theorem ready_run (s : Session) (ops : List Operation) (h : s.office.Ready) :
    (s.run ops).office.Ready := by
  induction ops generalizing s with
  | nil => exact h
  | cons op ops ih => exact ih (s.after op) (ready_after s op h)

theorem ready_initial (zone : LocalZone) : (initial zone).office.Ready :=
  Office.ready_empty Cache.sound_nil

/-- After every history, however its operations ended, the layout of each appender of each tag is kept,
    and kept as compiling gives it. So no log call compiles a layout, or changes what is kept, whatever
    is logged through whichever logger, and however the call ends. -/
theorem layouts_prepared_before_delivery (zone : LocalZone) (ops : List Operation) :
    let s := (initial zone).run ops
    (∀ p ∈ s.registry.loggers, ∀ a ∈ p.2,
        s.env.cache.get? a.layout = some (Layout.compile a.layout))
      ∧ ∀ handle call level message args,
          let s' := s.after (.log handle call level message args)
          s'.env.compilations = s.env.compilations ∧ s'.env.cache = s.env.cache := by
  intro s
  have h : s.office.Ready := ready_run (initial zone) ops (ready_initial zone)
  constructor
  · intro p hp a ha
    have hk := h.prepared a.layout ((Registry.mem_layouts _ _).2 ⟨p, hp, a, ha, rfl⟩)
    obtain ⟨segments, hs⟩ := Option.isSome_iff_exists.1 hk
    have hs' : s.env.cache.get? a.layout = some segments := hs
    rw [hs', h.sound a.layout segments hs']
  · intro handle call level message args
    have hlog := s.compilesNothing_log h handle call level message args
    exact ⟨hlog.compilations, hlog.cache⟩

end Session
end EventLog

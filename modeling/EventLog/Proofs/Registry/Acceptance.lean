import Mathlib.Data.List.Forall2
import EventLog.Proofs.Registry.Lookup

set_option autoImplicit false

/-! # Which configurations are accepted

`Settings` are the settings that a configuration may have: each of the four keys may be missing, and so may
each key of the definition of a logger. They are written in many ways (`Settings.IsWritten`), since a
mapping may hold its keys in any order, and other ones besides. Names of appenders and levels are always
resolved. The registry reads what results as it is meant, except that it insists on a list of definitions:
settings are accepted exactly if they have one, and then each tag has the appenders that its last
definition asks for (`configure_written`). -/

namespace EventLog

/-! ## Settings -/

/-- What the definition of a logger says about its level. -/
inductive LevelSetting where
  | unset
  | number (n : Int)
  | named (t : Text) (l : Level) (known : Level.ofName? t = some l)

/-- The text that is given, unless it is missing or empty. -/
def givenText (t : Option Text) (fallback : Text) : Text :=
  match t with
  | some (c :: t) => c :: t
  | _ => fallback

namespace LevelSetting

/-- The setting as it is written. -/
def value : LevelSetting → Value
  | unset => .null
  | number n => .int n
  | named t _ _ => .str t

/-- The level that is set. -/
def level? : LevelSetting → Option Level
  | unset => none
  | number n => some n
  | named _ l _ => some l

/-- The setting with its level as a number. -/
def resolved (s : LevelSetting) : LevelSetting :=
  match s.level? with
  | some n => number n
  | none => unset

@[simp] theorem level?_resolved (s : LevelSetting) : s.resolved.level? = s.level? := by
  cases s <;> rfl

theorem ofValue_value (s : LevelSetting) (default : Option Level) :
    Level.ofValue default s.value = .ok (s.level?.or default) := by
  cases s with
  | named t l known => simp [value, level?, Level.ofValue, known]
  | _ => rfl

end LevelSetting

/-- The definition of a logger. -/
structure LoggerDefinition where
  tag : Option Text
  level : Option LevelSetting
  layout : Option Text

namespace LoggerDefinition

/-- The tag that is meant. -/
def tagName (d : LoggerDefinition) : Text :=
  givenText d.tag Registry.mainTag

/-- The level that is meant. -/
def threshold (d : LoggerDefinition) : Level :=
  (d.level.bind LevelSetting.level?).getD Level.error

/-- The definition with its level as a number. -/
def resolved (d : LoggerDefinition) : LoggerDefinition :=
  { d with level := d.level.map LevelSetting.resolved }

/-- Whether the entries of a mapping say what the definition says. -/
structure IsWritten (d : LoggerDefinition) (es : Entries) : Prop where
  tag : es.get? Config.tagKey = d.tag.map .str
  level : es.get? Config.levelKey = d.level.map LevelSetting.value
  layout : es.get? Config.layoutKey = d.layout.map .str

end LoggerDefinition

/-- The settings of a configuration. -/
structure Settings where
  layout : Option Text
  injection : Option Bool
  /-- The names of appenders. -/
  appenders : Option (List Text)
  builtin : ∀ names, appenders = some names → ∀ name ∈ names,
    (Config.builtinAppenders.lookup name).isSome
  loggers : Option (List LoggerDefinition)

namespace Settings

/-- The layout of loggers that have none of their own. -/
def fallback (c : Settings) : Text :=
  givenText c.layout Appender.defaultLayout

/-- Whether appender classes can be added after the first event. -/
def injects (c : Settings) : Bool :=
  c.injection.getD true

/-- The classes of the appenders: the console, unless no appenders are wanted. -/
def classes (c : Settings) : List AppenderClass :=
  if c.appenders = some [] then [] else [Appender.consoleClass]

/-- The appenders that a definition asks for. -/
def appendersOf (c : Settings) (d : LoggerDefinition) : List Appender :=
  c.classes.map (Appender.ofClass · d.threshold (givenText d.layout c.fallback))

/-- The last definition for a tag. -/
def lastOf (ds : List LoggerDefinition) (tag : Text) : Option LoggerDefinition :=
  ds.reverse.find? (·.tagName = tag)

/-- Whether the entries of a mapping say what the settings say. -/
structure IsWritten (c : Settings) (es : Entries) : Prop where
  layout : es.get? Config.layoutKey = c.layout.map .str
  injection : es.get? Config.injectionKey = c.injection.map .bool
  appenders : es.get? Config.appendersKey = c.appenders.map fun names => .list (names.map .str)
  /-- Each definition is a mapping. -/
  loggers : match c.loggers with
    | none => es.get? Config.loggersKey = none
    | some ds => ∃ ess, es.get? Config.loggersKey = some (.list (ess.map Value.map))
        ∧ List.Forall₂ LoggerDefinition.IsWritten ds ess

end Settings

/-! ## Functions that end without a fault on all items -/

theorem ok_bind {α β : Type} (a : α) (f : α → Except Fault β) : (Except.ok a >>= f) = f a := rfl

section

variable {α β : Type} {f : α → Except Fault β} {as : List α} {bs : List β}

theorem mapM_of_forall₂ (h : List.Forall₂ (fun a b => f a = .ok b) as bs) :
    as.mapM f = .ok bs := by
  induction h with
  | nil => rfl
  | cons hf h ih =>
      rw [List.mapM_cons, hf, ih]
      rfl

theorem upToFault_of_forall₂ (h : List.Forall₂ (fun a b => f a = .ok b) as bs) :
    upToFault f as = (bs, none) := by
  induction h with
  | nil => rfl
  | cons hf h ih => rw [upToFault, hf, ih]

end

/-! ## Names are resolved -/

namespace Config

/-- The setting with the names of appenders replaced by the classes they stand for. -/
def resolveAppenders : Option AppenderSetting → Except Fault (Option AppenderSetting)
  | some (.list cs) => do .ok (some (.list (← cs.mapM resolveAppender)))
  | other => .ok other

/-- The setting with the definitions of loggers as mappings, with their levels as numbers. -/
def resolveDefinitions : Option Value → Except Fault (Option Value)
  | some (.list ds) => do .ok (some (.list (← ds.mapM resolveDefinition)))
  | other => .ok other

theorem normalize_eq (c : Config) :
    normalize c
      = (do
          let appenders ← resolveAppenders c.appenders
          let loggers ← resolveDefinitions c.loggers
          .ok { c with appenders := appenders, loggers := loggers }) := by
  obtain ⟨layout, injection, appenders, loggers, others⟩ := c
  rcases appenders with _ | cs | v <;> rcases loggers with _ | _ | _ | _ | _ | _ | _ | _ | ds | _ | _
  all_goals simp only [normalize, resolveAppenders, resolveDefinitions, bind_assoc, ok_bind]

/-- A mapping is its own mapping, also if it is empty and so counts as not set. -/
theorem resolveDefinition_map (es : Entries) :
    resolveDefinition (.map es)
      = match es.get? levelKey with
        | none => .ok (.map es)
        | some l => Level.ofValue none l >>= fun level =>
            .ok (.map (es.put levelKey ((level.map Value.int).getD .null))) := by
  have hes : (if (Value.map es).isSet then Value.map es else .map []) = .map es := by
    cases es <;> rfl
  rw [resolveDefinition, hes, Value.toMapping_map, ok_bind]
  cases es.get? levelKey with
  | none => rfl
  | some l =>
      dsimp only
      cases Level.ofValue none l with
      | error f => rfl
      | ok level => cases level <;> rfl

end Config

namespace LoggerDefinition

variable {d : LoggerDefinition} {es : Entries}

@[simp] theorem tagName_resolved (d : LoggerDefinition) : d.resolved.tagName = d.tagName := rfl

@[simp] theorem threshold_resolved (d : LoggerDefinition) : d.resolved.threshold = d.threshold := by
  cases h : d.level <;> simp [threshold, resolved, h]

/-- A definition can always be resolved, and is still one. -/
theorem exists_resolveDefinition (h : d.IsWritten es) :
    ∃ es', Config.resolveDefinition (.map es) = .ok (.map es') ∧ d.resolved.IsWritten es' := by
  cases hl : d.level with
  | none =>
      have hget : es.get? Config.levelKey = none := by simp [h.level, hl]
      refine ⟨es, ?_, h.tag, ?_, h.layout⟩
      · rw [Config.resolveDefinition_map, hget]
      · simp [resolved, hl, hget]
  | some s =>
      have hget : es.get? Config.levelKey = some s.value := by simp [h.level, hl]
      -- the level is written back under its key, so tag and layout stay
      refine ⟨es.put Config.levelKey s.resolved.value, ?_, ?_, ?_, ?_⟩
      · rw [Config.resolveDefinition_map, hget]
        dsimp only
        rw [s.ofValue_value none, ok_bind]
        cases s <;> rfl
      · rw [Entries.get?_put_of_not_same _ _ (by decide)]
        exact h.tag
      · rw [Entries.get?_put_self]
        simp [resolved, hl]
      · rw [Entries.get?_put_of_not_same _ _ (by decide)]
        exact h.layout

end LoggerDefinition

namespace Settings

variable {c : Settings} {es : Entries} {config : Config}

/-- Whether a configuration says what the settings say, with all names resolved. -/
structure IsResolved (c : Settings) (config : Config) : Prop where
  layout : config.layout = c.layout.map .str
  injection : config.injection = c.injection.map .bool
  appenders : config.appenders
    = c.appenders.map fun names => .list (names.map fun _ => .cls Appender.consoleClass)
  loggers : match c.loggers with
    | none => config.loggers = none
    | some ds => ∃ ess, config.loggers = some (.list (ess.map Value.map))
        ∧ List.Forall₂ (fun d es => d.resolved.IsWritten es) ds ess

/-- The console is the only appender with a name. -/
theorem mapM_resolveAppender {names : List Text} (h : c.appenders = some names) :
    ((names.map Value.str).map Candidate.value).mapM Config.resolveAppender
      = .ok (names.map fun _ => .cls Appender.consoleClass) := by
  refine mapM_of_forall₂ ?_
  rw [List.map_map, List.forall₂_map_left_iff, List.forall₂_map_right_iff, List.forall₂_same]
  intro name hm
  obtain ⟨cls, hcls⟩ := Option.isSome_iff_exists.1 (c.builtin names h name hm)
  show Config.resolveAppender (.value (.str name)) = _
  rw [Config.resolveAppender, hcls]
  -- there is one entry to be found under the name
  rw [Config.builtinAppenders, List.lookup_cons] at hcls
  split at hcls
  · cases hcls
    rfl
  · cases hcls

theorem exists_mapM_resolveDefinition {ds : List LoggerDefinition} {ess : List Entries}
    (h : List.Forall₂ LoggerDefinition.IsWritten ds ess) :
    ∃ ess', (ess.map Value.map).mapM Config.resolveDefinition = .ok (ess'.map Value.map)
      ∧ List.Forall₂ (fun d es => d.resolved.IsWritten es) ds ess' := by
  induction h with
  | nil => exact ⟨[], rfl, .nil⟩
  | cons hd h ih =>
      obtain ⟨es', he, hw⟩ := LoggerDefinition.exists_resolveDefinition hd
      obtain ⟨ess', hes, hws⟩ := ih
      refine ⟨es' :: ess', ?_, .cons hw hws⟩
      rw [List.map_cons, List.mapM_cons, he, hes]
      rfl

/-- Names can always be resolved. -/
theorem exists_normalize (h : c.IsWritten es) :
    ∃ config, Config.normalize (Config.ofEntries es) = .ok config ∧ c.IsResolved config := by
  have happenders : Config.resolveAppenders (Config.ofEntries es).appenders
      = .ok (c.appenders.map fun names => .list (names.map fun _ => .cls Appender.consoleClass)) := by
    rw [Config.ofEntries, h.appenders]
    cases ha : c.appenders with
    | none => rfl
    | some names =>
        show (_ >>= _) = _
        rw [mapM_resolveAppender ha]
        rfl
  have hloggers := h.loggers
  cases hl : c.loggers with
  | none =>
      rw [hl] at hloggers
      have hdefinitions : Config.resolveDefinitions (Config.ofEntries es).loggers = .ok none := by
        rw [Config.ofEntries, hloggers]
        rfl
      refine ⟨_, by rw [Config.normalize_eq, happenders, hdefinitions]; rfl,
        h.layout, h.injection, rfl, ?_⟩
      rw [hl]
  | some ds =>
      rw [hl] at hloggers
      obtain ⟨ess, he, hw⟩ := hloggers
      obtain ⟨ess', hm, hw'⟩ := exists_mapM_resolveDefinition hw
      have hdefinitions : Config.resolveDefinitions (Config.ofEntries es).loggers
          = .ok (some (.list (ess'.map Value.map))) := by
        rw [Config.ofEntries, he]
        show (_ >>= _) = _
        rw [hm]
        rfl
      refine ⟨_, by rw [Config.normalize_eq, happenders, hdefinitions]; rfl,
        h.layout, h.injection, rfl, ?_⟩
      rw [hl]
      exact ⟨ess', rfl, hw'⟩

end Settings

/-! ## What the registry reads -/

namespace Registry

/-- A class that is registered several times is there once. -/
theorem addClasses_replicate (r : Registry) (n : Nat) (name : Text) (c : AppenderClass) :
    r.addClasses (List.replicate n (name, c)) = if n = 0 then r else r.addClass name c := by
  induction n generalizing r with
  | zero => rfl
  | succ n ih =>
      rw [if_neg n.succ_ne_zero, List.replicate_succ, addClasses_cons, ih]
      split
      · rfl
      · refine addClass_of_has _ c ?_
        rw [Table.has, get?_classes_addClass]
        rfl

end Registry

theorem isSet_givenText (t : Option Text) (fallback : Text) :
    (if ((t.map Value.str).getD .null).isSet then (t.map Value.str).getD .null else .str fallback)
      = .str (givenText t fallback) := by
  rcases t with _ | _ | _ <;> rfl

namespace LoggerDefinition

variable {d : LoggerDefinition} {es : Entries}

theorem IsWritten.tagOf_eq (h : d.IsWritten es) : Registry.tagOf es = .str d.tagName := by
  rw [Registry.tagOf, h.tag, tagName]
  rcases d.tag with _ | _ | _ <;> rfl

theorem IsWritten.layoutOf_eq (h : d.IsWritten es) {settings : Configuration} {fallback : Text}
    (hs : settings.layout = .str fallback) :
    Registry.layoutOf es settings = .str (givenText d.layout fallback) := by
  rw [Registry.layoutOf, h.layout]
  rcases d.layout with _ | _ | _
  · exact hs
  · exact hs
  · rfl

/-- What a definition asks for is what it says. -/
theorem IsWritten.entry_eq (h : d.IsWritten es) {settings : Configuration} {fallback : Text}
    (hs : settings.layout = .str fallback) (classes : List AppenderClass) :
    Registry.entry settings classes (.map es)
      = .ok (.str d.tagName,
          classes.map (Appender.ofClass · d.threshold (givenText d.layout fallback))) := by
  -- a level that is missing and one that is null come to the same in the end
  have hlevel : ∃ level, Level.ofValue (some Level.error) ((es.get? Config.levelKey).getD .null)
      = .ok level ∧ level.getD Level.error = d.threshold := by
    rw [h.level, threshold]
    cases d.level with
    | none => exact ⟨_, rfl, rfl⟩
    | some s =>
        refine ⟨_, s.ofValue_value _, ?_⟩
        cases s <;> rfl
  obtain ⟨level, hl, ht⟩ := hlevel
  rw [Registry.entry, hl]
  dsimp only
  rw [ht, h.layoutOf_eq hs, Registry.made_str, h.tagOf_eq]
  rfl

end LoggerDefinition

namespace Settings

variable {c : Settings} {config : Config}

theorem IsResolved.settings_eq (h : c.IsResolved config) :
    Registry.settings none config = ⟨.str c.fallback, .bool c.injects⟩ := by
  rw [Registry.settings, h.layout, h.injection]
  congr 1
  · exact isSet_givenText c.layout Appender.defaultLayout
  · cases hi : c.injection <;> simp [injects, hi]

/-- The registry with the settings and the classes, before any definition is read. -/
def prepared (c : Settings) : Registry where
  classes := if c.appenders = some [] then [] else [("console", Appender.consoleClass)]
  configuration := some (some ⟨.str c.fallback, .bool c.injects⟩)
  frozen := false
  loggers := []

theorem classList_prepared (c : Settings) : c.prepared.classList = c.classes := by
  rw [Registry.classList, prepared, classes]
  split <;> rfl

/-- All appenders are accepted. -/
theorem IsResolved.accepted_eq (h : c.IsResolved config) :
    ∃ n, (n = 0 ↔ c.appenders = some [])
      ∧ upToFault Registry.accept (Registry.candidates config.appenders)
        = (List.replicate n (("console" : Text), Appender.consoleClass), none) := by
  rw [h.appenders]
  cases ha : c.appenders with
  | none => exact ⟨1, by simp, rfl⟩
  | some names =>
      refine ⟨names.length, by simp, ?_⟩
      rw [← List.map_const']
      refine upToFault_of_forall₂ ?_
      show List.Forall₂ _ (names.map fun _ => Candidate.cls Appender.consoleClass) _
      rw [List.forall₂_map_left_iff, List.forall₂_map_right_iff, List.forall₂_same]
      intro name _
      rfl

/-- The definitions are read one after the other, if there are any. -/
theorem IsResolved.configured_eq (h : c.IsResolved config) :
    Registry.empty.configured config
      = match c.loggers with
        | none => (c.prepared, some .loggersNotAList)
        | some ds =>
            (c.prepared.withEntries (ds.map fun d => (.str d.tagName, c.appendersOf d)), none) := by
  obtain ⟨n, hn, haccepted⟩ := h.accepted_eq
  let r : Registry :=
    { Registry.empty with configuration := some (some ⟨.str c.fallback, .bool c.injects⟩) }
  have hprepared : r.addClasses (List.replicate n (("console" : Text), Appender.consoleClass))
      = c.prepared := by
    rw [Registry.addClasses_replicate, prepared]
    by_cases h0 : n = 0
    · rw [if_pos h0, if_pos (hn.1 h0)]
      rfl
    · rw [if_neg h0, if_neg (mt hn.2 h0)]
      rfl
  have hsettings : Registry.settings Registry.empty.configuration.join config
      = ⟨.str c.fallback, .bool c.injects⟩ := h.settings_eq
  rw [Registry.configured, haccepted, hsettings]
  dsimp only
  rw [hprepared, c.classList_prepared]
  have hloggers := h.loggers
  cases hl : c.loggers with
  | none =>
      rw [hl] at hloggers
      rw [hloggers]
      rfl
  | some ds =>
      rw [hl] at hloggers
      obtain ⟨ess, he, hw⟩ := hloggers
      have hentries : upToFault
          (Registry.entry ⟨.str c.fallback, .bool c.injects⟩ c.classes) (ess.map Value.map)
          = (ds.map fun d => (.str d.tagName, c.appendersOf d), none) := by
        refine upToFault_of_forall₂ ?_
        rw [List.forall₂_map_left_iff, List.forall₂_map_right_iff]
        refine hw.flip.imp fun es d hd => ?_
        have hentry : Registry.entry ⟨.str c.fallback, .bool c.injects⟩ c.classes (.map es) = _ :=
          hd.entry_eq rfl c.classes
        rw [LoggerDefinition.tagName_resolved, LoggerDefinition.threshold_resolved] at hentry
        exact hentry
      rw [he, Registry.entries, hentries]

/-- Settings that are written in a mapping pass the resolution of names. What comes of them is accepted
    by a registry of which nothing was asked yet exactly if they define loggers. If they do, the registry
    has the settings, and each tag has the appenders that the last definition for it asks for, with the
    level and the layout of this definition, and there are no appenders for other tags. -/
theorem configure_written (c : Settings) (es : Entries) (hc : c.IsWritten es) (env : Environment) :
    ∃ config, Config.normalize (Config.ofEntries es) = .ok config
      ∧ match c.loggers with
        | none => ∃ o, Registry.configure config ⟨env, .empty⟩ = .error .loggersNotAList o
        | some ds => ∃ o, Registry.configure config ⟨env, .empty⟩ = .ok () o
            ∧ o.registry.configuration = some (some ⟨.str c.fallback, .bool c.injects⟩)
            ∧ ∀ tag : Text,
                o.registry.loggers.get? (.str tag) = (lastOf ds tag).map c.appendersOf := by
  obtain ⟨config, hnormalize, hconfig⟩ := exists_normalize hc
  refine ⟨config, hnormalize, ?_⟩
  obtain ⟨env', hend⟩ := Registry.configure_eq config ⟨env, .empty⟩ rfl
  dsimp only at hend
  rw [hconfig.configured_eq] at hend
  cases hl : c.loggers with
  | none =>
      rw [hl] at hend
      exact ⟨_, hend⟩
  | some ds =>
      rw [hl] at hend
      refine ⟨_, hend, ?_, fun tag => ?_⟩
      · show (c.prepared.withEntries _).configuration = _
        rw [Registry.withEntries_eq]
        rfl
      · have hget := c.prepared.appenders?_withEntries
          (ds.map fun d => (.str d.tagName, c.appendersOf d)) (.str tag)
        rw [Registry.lastFor_map, Registry.appenders?, Registry.tagFor_str] at hget
        rw [hget]
        exact Option.or_none

/-- Of two definitions of the main tag the last one counts, which names the tag by an empty text. -/
theorem configure_written_with_repeated_tag :
    let console := Appender.ofClass Appender.consoleClass
    let ds : List LoggerDefinition :=
      [⟨none, some (.named "debug" Level.debug (by decide)), none⟩, ⟨some "db", some .unset, none⟩,
        ⟨some "", some (.number 300), some "%p"⟩]
    let c : Settings := ⟨some "%m", none, some ["console", "console"], by decide, some ds⟩
    let es : Entries :=
      [(Config.layoutKey, .str "%m"),
        (Config.appendersKey, .list [.str "console", .str "console"]),
        (Config.loggersKey, .list
          [.map [(Config.levelKey, .str "debug")],
            .map [(Config.levelKey, .null), (Config.tagKey, .str "db")],
            .map [(Config.tagKey, .str ""), (Config.levelKey, .int 300),
              (Config.layoutKey, .str "%p")]])]
    c.IsWritten es
      ∧ ∃ config o, Config.normalize (Config.ofEntries es) = .ok config
        ∧ Registry.configure config ⟨.initial .universal, .empty⟩ = .ok () o
        ∧ o.registry.loggers.get? (.str "main") = some [console 300 "%p"]
        ∧ o.registry.loggers.get? (.str "db") = some [console 200 "%m"]
        ∧ o.registry.loggers.get? (.str "web") = none := by
  intro console ds c es
  have hc : c.IsWritten es :=
    ⟨rfl, rfl, rfl, _, rfl, .cons ⟨rfl, rfl, rfl⟩ (.cons ⟨rfl, rfl, rfl⟩ (.cons ⟨rfl, rfl, rfl⟩ .nil))⟩
  obtain ⟨config, hnormalize, o, hok, -, hget⟩ := configure_written c es hc (.initial .universal)
  exact ⟨hc, config, o, hnormalize, hok, hget "main", hget "db", hget "web"⟩

/-- An empty file stands for the mapping without entries, which leaves out each of the settings, and the
    registry refuses what comes of it. -/
theorem empty_file_refused :
    let env : Environment := .initial .universal
    let c : Settings := ⟨none, none, none, by simp, none⟩
    c.IsWritten []
      ∧ Config.normalize (Config.ofEntries []) = .ok Config.empty
      ∧ ∃ o, Registry.configure Config.empty ⟨env, .empty⟩ = .error .loggersNotAList o := by
  intro env c
  obtain ⟨env', hend⟩ := Registry.configure_eq Config.empty ⟨env, .empty⟩ rfl
  exact ⟨⟨rfl, rfl, rfl, rfl⟩, rfl, _, hend⟩

end Settings

end EventLog

import EventLog.Proofs.Registry.Outcome
import EventLog.Proofs.Rendering.Rendition

set_option autoImplicit false

/-! # Who receives an event

The events of a logger go to its audience: the appenders of the tag with its name, if there is such a
tag, else those of the main one. A `Receipt` is the delivery to one of them, with the texts it wrote to
the console, one for each write. A delivery without a fault is a chain of receipts, one for each active
appender of the audience, in the order of the list (`exists_receipts_deliver`). Each starts where the one
before ended, so nothing else happens in between, and what was written to the console altogether is what
the receipts say (`Chain.streams`). -/

namespace EventLog

/-- Whether events of the level go to the stream for errors. -/
def Level.IsSevere (level : Int) : Prop :=
  level = 100 ∨ level = 200 ∨ level = 300

instance (level : Int) : Decidable (Level.IsSevere level) :=
  inferInstanceAs (Decidable (_ ∨ _))

/-- The delivery of an event to one appender: the appender and the scene before and after it, and what
    was written to the console. -/
structure Receipt where
  appender : Appender
  before : Scene
  kept : Appender
  after : Scene
  /-- The texts written to the console, one for each write. -/
  writes : List Text

namespace Receipt

/-- What a receipt says of the event `e` that is delivered. Its place may have been looked up before, for
    another appender. -/
structure IsDelivery (r : Receipt) (e : Event) : Prop where
  delivered : r.appender.append r.before = .ok r.kept r.after
  received : r.before.event.unplaced = e.unplaced
  /-- A console writes the event as its layout shows it, and a line end, in one piece. -/
  console : r.appender.cls.delivery = .console →
    if e.level ≤ r.appender.level then
      ∃ t s, Layout.format r.appender.layout r.before = .ok t s ∧ r.writes = [t ++ ['\n']]
    else r.writes = []
  other : r.appender.cls.delivery ≠ .console → r.writes = []
  output : r.after.env.output
    = r.before.env.output ++ if Level.IsSevere e.level then [] else r.writes.flatten
  errors : r.after.env.errors
    = r.before.env.errors ++ if Level.IsSevere e.level then r.writes.flatten else []
  passedOn : r.after.event.unplaced = e.unplaced

/-- The receipts lead from one scene to another, each from where the one before it ended. -/
inductive Chain : Scene → List Receipt → Scene → Prop
  | nil (s : Scene) : Chain s [] s
  | cons (r : Receipt) {rest : List Receipt} {s : Scene} (h : Chain r.after rest s) :
      Chain r.before (r :: rest) s

/-- The two streams of the console hold what the receipts say, and nothing else. -/
theorem Chain.streams {s s' : Scene} {receipts : List Receipt} (h : Chain s receipts s') {e : Event}
    (hr : ∀ r ∈ receipts, r.IsDelivery e) :
    s'.env.output
        = s.env.output ++ (if Level.IsSevere e.level then [] else (receipts.flatMap (·.writes)).flatten)
      ∧ s'.env.errors
        = s.env.errors
          ++ if Level.IsSevere e.level then (receipts.flatMap (·.writes)).flatten else [] := by
  induction h with
  | nil s => simp
  | cons r h ih =>
      have hd := hr r (by simp)
      obtain ⟨ho, he⟩ := ih fun q hq => hr q (List.mem_cons_of_mem _ hq)
      rw [ho, he, hd.output, hd.errors]
      split <;> simp

end Receipt

/-! ## What formatting leaves alone, and what writing does -/

/-- Nothing was written to the console, and the event is the same but for its place. -/
structure Scene.Quiet (s s' : Scene) : Prop where
  output : s'.env.output = s.env.output
  errors : s'.env.errors = s.env.errors
  event : s'.event.unplaced = s.event.unplaced

theorem Event.level_of_unplaced {e e' : Event} (h : e.unplaced = e'.unplaced) :
    e.level = e'.level := by
  show e.unplaced.level = e'.unplaced.level
  rw [h]

/-- Formatting writes nothing, also if it ends with a fault. -/
theorem Layout.quiet_format (layout : Text) (s : Scene) :
    s.Quiet (finalState (format layout s)) := by
  obtain ⟨env, e⟩ := s
  have hp := (rendition_isFrom env.zone env.provider e (env.fetch layout).1).event
  rw [format_eq_inEnvironment, Rendition.inEnvironment, env.fetch_snd_eq]
  cases (rendition env.zone env.provider e (env.fetch layout).1).stripped.result <;>
    exact ⟨rfl, rfl, hp⟩

theorem Layout.format_quiet {layout t : Text} {s s' : Scene} (h : format layout s = .ok t s') :
    s.Quiet s' := by
  have hq := quiet_format layout s
  rw [h] at hq
  exact hq

namespace Appender

theorem quiet_formatIf (a : Appender) (wanted : Bool) (s : Scene) :
    s.Quiet (finalState (a.formatIf wanted s)) := by
  have hq := Layout.quiet_format a.layout s
  cases wanted with
  | false => exact ⟨rfl, rfl, rfl⟩
  | true =>
      rw [formatIf, if_pos rfl, map_eq_pure_bind, bind_apply, format]
      cases hf : Layout.format a.layout s <;> rw [hf] at hq <;> exact hq

theorem formatIf_quiet {a : Appender} {wanted : Bool} {shown : Option Text} {s s' : Scene}
    (h : a.formatIf wanted s = .ok shown s') : s.Quiet s' := by
  have hq := a.quiet_formatIf wanted s
  rw [h] at hq
  exact hq

theorem mem_errorLevels (level : Int) : level ∈ errorLevels ↔ Level.IsSevere level := by
  simp [errorLevels, Level.IsSevere, Level.fatal, Level.error, Level.warn]

theorem writeLine_eq (env : Environment) (level : Int) (t : Text) :
    writeLine env level t
      = { env with
          output := env.output ++ if Level.IsSevere level then [] else t ++ ['\n']
          errors := env.errors ++ if Level.IsSevere level then t ++ ['\n'] else [] } := by
  unfold writeLine
  by_cases h : Level.IsSevere level
  · simp [(mem_errorLevels level).2 h, h]
  · simp [mt (mem_errorLevels level).1 h, h]

/-! ## What a delivery keeps of the environment

A delivery changes the environment only by formatting and by writing to the console, so what these keep
is kept wherever it ends. -/

section

variable {P : Environment → Prop} (hline : ∀ env level t, P env → P (writeLine env level t))

include hline

theorem keeps_append {a : Appender}
    (hformat : ∀ s : Scene, P s.env → P (finalState (a.format s)).env) (s : Scene) (h : P s.env) :
    P (finalState (a.append s)).env := by
  cases hc : a.cls.delivery with
  | console =>
      have hf := hformat s h
      rw [append_console a s hc]
      split
      · cases ha : a.format s with
        | error f s' =>
            rw [ha] at hf
            exact hf
        | ok t s' =>
            rw [ha] at hf
            exact hline s'.env s.event.level t hf
      · exact h
  | custom renders keep =>
      have hf : P (finalState (a.formatIf (renders a.level s.event) s)).env := by
        unfold formatIf
        split
        · have hs := hformat s h
          rw [map_eq_pure_bind, bind_apply]
          cases ha : a.format s <;> rw [ha] at hs <;> exact hs
        · exact h
      rw [append_custom a s hc]
      cases ha : a.formatIf (renders a.level s.event) s with
      | error f s' =>
          rw [ha] at hf
          exact hf
      | ok shown s' =>
          rw [ha] at hf
          dsimp only
          cases keep s'.event shown a.messages <;> exact hf

theorem keeps_appendAll {as : List Appender}
    (hformat : ∀ a ∈ as, ∀ s : Scene, P s.env → P (finalState (a.format s)).env) (s : Scene)
    (h : P s.env) : P (appendAll as s).2.2.env := by
  induction as generalizing s with
  | nil => exact h
  | cons a rest ih =>
      have hrest := fun b hb => hformat b (List.mem_cons_of_mem a hb)
      rw [appendAll]
      split
      · have happ := keeps_append hline (hformat a (by simp)) s h
        cases ha : a.append s with
        | error f s' =>
            rw [ha] at happ
            exact happ
        | ok a' s' =>
            rw [ha] at happ
            exact ih hrest s' happ
      · exact ih hrest s h

end

/-! ## One appender -/

section

variable {a a' : Appender} {s s' : Scene} {e : Event}

theorem exists_receipt_console (h : a.append s = .ok a' s')
    (he : s.event.unplaced = e.unplaced) (hc : a.cls.delivery = .console) :
    ∃ writes, (⟨a, s, a', s', writes⟩ : Receipt).IsDelivery e := by
  have hl : s.event.level = e.level := Event.level_of_unplaced he
  have happ := h
  rw [append_console a s hc] at h
  by_cases hp : s.event.level ≤ a.level
  · rw [if_pos (by simpa [passes] using hp)] at h
    cases hf : a.format s with
    | error f s₁ => simp [hf] at h
    | ok t s₁ =>
        rw [hf] at h
        have hq := Layout.format_quiet hf
        obtain ⟨rfl, rfl⟩ := EStateM.Result.ok.inj h
        refine ⟨[t ++ ['\n']], happ, he, fun _ => ?_, (absurd hc ·), ?_, ?_, hq.event.trans he⟩
        · rw [if_pos (hl ▸ hp)]
          exact ⟨t, s₁, hf, rfl⟩
        · simp [writeLine_eq, hq.output, hl]
        · simp [writeLine_eq, hq.errors, hl]
  · rw [if_neg (by simpa [passes] using hp)] at h
    -- the event is not severe enough, so the console does nothing
    obtain ⟨rfl, rfl⟩ := EStateM.Result.ok.inj h
    refine ⟨[], happ, he, fun _ => ?_, fun _ => rfl, by simp, by simp, he⟩
    rw [if_neg (hl ▸ hp)]

/-- Any other appender writes nothing to the console, whether the event is rendered or not. -/
theorem append_quiet_of_not_console (h : a.append s = .ok a' s')
    (hc : a.cls.delivery ≠ .console) : s.Quiet s' := by
  cases hd : a.cls.delivery with
  | console => exact absurd hd hc
  | custom renders keep =>
      rw [append_custom a s hd] at h
      cases hf : a.formatIf (renders a.level s.event) s with
      | error f s₁ => simp [hf] at h
      | ok shown s₁ =>
          rw [hf] at h
          cases hk : keep s₁.event shown a.messages with
          | error x => simp [hk] at h
          | ok messages =>
              simp only [hk] at h
              obtain ⟨-, rfl⟩ := EStateM.Result.ok.inj h
              exact formatIf_quiet hf

/-- A delivery without a fault gives a receipt. -/
theorem exists_receipt (h : a.append s = .ok a' s') (he : s.event.unplaced = e.unplaced) :
    ∃ writes, (⟨a, s, a', s', writes⟩ : Receipt).IsDelivery e := by
  by_cases hc : a.cls.delivery = .console
  · exact exists_receipt_console h he hc
  · have hq := append_quiet_of_not_console h hc
    exact ⟨[], h, he, (absurd · hc), fun _ => rfl, by simp [hq.output], by simp [hq.errors],
      hq.event.trans he⟩

end

/-! ## All appenders of a list -/

/-- Whether the appender is active for events of the level. -/
def isActive (a : Appender) (level : Int) : Bool :=
  a.cls.isActive (some level)

/-- The appenders of a list after deliveries to those that are active. -/
structure Served (level : Int) (receipts : List Receipt) (before after : List Appender) : Prop where
  receivers : receipts.map (·.appender) = before.filter (·.isActive level)
  active : after.filter (·.isActive level) = receipts.map (·.kept)
  others : after.filter (!·.isActive level) = before.filter (!·.isActive level)

theorem isActive_of_append {a a' : Appender} {s s' : Scene} (h : a.append s = .ok a' s')
    (level : Int) : a'.isActive level = a.isActive level := by
  have hb := bare_of_append a a' s s' h
  show a'.bare.isActive level = a.bare.isActive level
  rw [hb]

namespace Served

variable {level : Int} {receipts : List Receipt} {before after : List Appender}

theorem cons_inactive {a : Appender} (ha : a.isActive level = false)
    (h : Served level receipts before after) :
    Served level receipts (a :: before) (a :: after) := by
  refine ⟨?_, ?_, ?_⟩
  · rw [List.filter_cons_of_neg (by simp [ha]), h.receivers]
  · rw [List.filter_cons_of_neg (by simp [ha]), h.active]
  · rw [List.filter_cons_of_pos (by simp [ha]), List.filter_cons_of_pos (by simp [ha]), h.others]

theorem cons_active (r : Receipt) (hb : r.appender.isActive level = true)
    (ha : r.kept.isActive level = true) (h : Served level receipts before after) :
    Served level (r :: receipts) (r.appender :: before) (r.kept :: after) := by
  refine ⟨?_, ?_, ?_⟩
  · rw [List.filter_cons_of_pos (by simp [hb]), List.map_cons, h.receivers]
  · rw [List.filter_cons_of_pos (by simp [ha]), List.map_cons, h.active]
  · rw [List.filter_cons_of_neg (by simp [ha]), List.filter_cons_of_neg (by simp [hb]), h.others]

end Served

/-- Delivering an event without a fault leaves one receipt for each active appender, in order. -/
theorem exists_receipts (as : List Appender) (s : Scene) (h : (appendAll as s).2.1 = none)
    {e : Event} (he : s.event.unplaced = e.unplaced) :
    ∃ receipts, Receipt.Chain s receipts (appendAll as s).2.2
      ∧ (∀ r ∈ receipts, r.IsDelivery e)
      ∧ Served e.level receipts as (appendAll as s).1 := by
  induction as generalizing s with
  | nil => exact ⟨[], .nil s, by simp, rfl, rfl, rfl⟩
  | cons a rest ih =>
      have hl : s.event.level = e.level := Event.level_of_unplaced he
      by_cases ha : a.isActive e.level = true
      · have hif : a.cls.isActive (some s.event.level) = true := hl ▸ ha
        rw [appendAll, if_pos hif] at h ⊢
        -- a fault would have ended the delivery here
        cases happ : a.append s with
        | error f s₁ => simp [happ] at h
        | ok a' s₁ =>
            rw [happ] at h
            obtain ⟨writes, hr⟩ := exists_receipt happ he
            obtain ⟨receipts, hc, hd, hs⟩ := ih s₁ h hr.passedOn
            have ha' : a'.isActive e.level = true := (isActive_of_append happ _).trans ha
            exact ⟨⟨a, s, a', s₁, writes⟩ :: receipts, .cons ⟨a, s, a', s₁, writes⟩ hc,
              List.forall_mem_cons.2 ⟨hr, hd⟩, hs.cons_active ⟨a, s, a', s₁, writes⟩ ha ha'⟩
      · have hif : ¬ a.cls.isActive (some s.event.level) = true := hl ▸ ha
        rw [appendAll, if_neg hif] at h ⊢
        obtain ⟨receipts, hc, hd, hs⟩ := ih s h he
        exact ⟨receipts, hc, hd, hs.cons_inactive (eq_false_of_ne_true ha)⟩

end Appender

namespace Registry

/-- The appenders to which the events of a logger go: those of the tag with its name, even if there are
    none, else those of the main tag, else none. -/
def audience (r : Registry) (logger : Text) : List Appender :=
  match r.loggers.get? (.str logger), r.loggers.get? (.str mainTag) with
  | some own, _ => own
  | none, some main => main
  | none, none => []

theorem audience_eq (r : Registry) (logger : Text) :
    r.audience logger = r.appendersOf (r.route logger) := by
  unfold audience route Table.has
  cases ho : r.loggers.get? (.str logger) with
  | some own => simp [appendersOf, tagFor_str, ho]
  | none =>
      cases hm : r.loggers.get? (.str mainTag) with
      | some main => simp [appendersOf, tagFor_str, hm]
      | none => simp [appendersOf, tagFor_str, hm]

/-- The registry after its appenders for a logger were left like this by a delivery. -/
def afterDelivery (r : Registry) (logger : Text) (as : List Appender) : Registry :=
  { r with
    frozen := true
    loggers := if r.loggers.has (r.route logger) then r.loggers.put (r.route logger) as
      else r.loggers }

/-- A delivery ends as the deliveries to the single appenders do. -/
theorem deliver_eq (e : Event) (o : Office) :
    deliver e o
      = ended (Appender.appendAll (o.registry.audience e.logger) ⟨o.env, e⟩).2.1
          ⟨(Appender.appendAll (o.registry.audience e.logger) ⟨o.env, e⟩).2.2.env,
            o.registry.afterDelivery e.logger
              (Appender.appendAll (o.registry.audience e.logger) ⟨o.env, e⟩).1⟩ := by
  rw [deliver, audience_eq]
  dsimp only
  cases (Appender.appendAll (o.registry.appendersOf (o.registry.route e.logger))
    ⟨o.env, e⟩).2.1 <;> rfl

theorem get?_afterDelivery (r : Registry) (logger : Text) (as : List Appender) {tag : Key}
    (h : tag ≠ r.route logger) :
    (r.afterDelivery logger as).loggers.get? tag = r.loggers.get? tag := by
  unfold afterDelivery
  dsimp only
  split
  · exact Table.get?_put_of_ne _ _ h
  · rfl

/-- The audience of a logger is what the delivery left of it. -/
theorem audience_afterDelivery (r : Registry) (logger : Text) (as : List Appender)
    (h : r.audience logger = [] → as = []) :
    (r.afterDelivery logger as).audience logger = as := by
  by_cases ho : r.loggers.has (.str logger) = true
  · simp [afterDelivery, audience, route, ho]
  · have hn : r.loggers.get? (.str logger) = none := by simpa [Table.has] using ho
    by_cases hm : r.loggers.has (.str mainTag) = true
    · -- the main tag is known and the one of the logger is not, so they are different
      have hne : (Key.str logger) ≠ .str mainTag := fun e => ho (e ▸ hm)
      simp [afterDelivery, audience, route, ho, hm, Table.get?_put_of_ne _ _ hne, hn]
    · have hmn : r.loggers.get? (.str mainTag) = none := by simpa [Table.has] using hm
      rw [h (by simp [audience, hn, hmn])]
      simp [afterDelivery, audience, route, ho, hm, hn, hmn]

/-- Delivering an event without a fault, to the audience of its logger. -/
theorem exists_receipts_deliver {e : Event} {o o' : Office} (h : deliver e o = .ok () o') :
    ∃ receipts e', Receipt.Chain ⟨o.env, e⟩ receipts ⟨o'.env, e'⟩
      ∧ (∀ r ∈ receipts, r.IsDelivery e)
      ∧ Appender.Served e.level receipts (o.registry.audience e.logger)
          (o'.registry.audience e.logger)
      ∧ ∀ tag, tag ≠ o.registry.route e.logger →
          o'.registry.loggers.get? tag = o.registry.loggers.get? tag := by
  rw [deliver_eq] at h
  cases hf : (Appender.appendAll (o.registry.audience e.logger) ⟨o.env, e⟩).2.1 with
  | some f => simp [hf, ended] at h
  | none =>
      rw [hf] at h
      obtain ⟨-, rfl⟩ := EStateM.Result.ok.inj h
      obtain ⟨receipts, hc, hd, hs⟩ :=
        Appender.exists_receipts (o.registry.audience e.logger) ⟨o.env, e⟩ hf rfl
      refine ⟨receipts, _, hc, hd, ?_, fun tag => get?_afterDelivery _ _ _⟩
      rw [audience_afterDelivery]
      · exact hs
      · intro he
        rw [he]
        rfl

end Registry
end EventLog

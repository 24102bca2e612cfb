import EventLog.Proofs.Registry.Outcome

set_option autoImplicit false

/-! # What a registry knows of its history

A registry is frozen exactly if an event was delivered since the last reset (`frozen_run_iff`). Which
operations come in between, and whether they end with a fault, does not matter. -/

namespace EventLog

namespace Registry

theorem frozen_configured (r : Registry) (c : Config) :
    (r.configured c).1.frozen = r.frozen := by
  unfold configured
  dsimp only
  split
  · rw [addClasses_eq]
  · rw [withEntries_eq, addClasses_eq]

end Registry

namespace Session

/-- Whether the operation delivers an event: it is a log call on a logger that was asked for. -/
def Operation.delivers (s : Session) : Operation → Bool
  | .log handle .. => handle < s.loggers.length
  | _ => false

/-- Whether an event was delivered since the last reset of a history that starts in `s`. -/
def DeliveredSinceReset (s : Session) (ops : List Operation) : Prop :=
  ∃ earlier op later, ops = earlier ++ op :: later
    ∧ op.delivers (s.run earlier) = true ∧ ∀ q ∈ later, q ≠ .reset

/-- A delivery freezes the registry, and only a reset undoes that. -/
theorem frozen_after (s : Session) (op : Operation) (h : op ≠ .reset) :
    (s.after op).registry.frozen = (s.registry.frozen || op.delivers s) := by
  cases op with
  | configure c =>
      show _ = (s.registry.frozen || false)
      rw [registry_after_configure, Bool.or_false]
      split
      · rfl
      · exact Registry.frozen_configured _ _
  | misconfigure =>
      show _ = (s.registry.frozen || false)
      rw [registry_after_misconfigure, Bool.or_false]
      split <;> rfl
  | addAppender candidate =>
      show _ = (s.registry.frozen || false)
      rw [registry_after_addAppender, Bool.or_false]
      split
      · rfl
      · split
        · rw [Registry.addClass_eq]
        · rfl
  | getLogger context stack ticks =>
      show _ = (s.registry.frozen || false)
      rw [registry_after_getLogger, Bool.or_false]
      split
      · exact Registry.frozen_configured _ _
      · rfl
  | log handle call level message args =>
      have hb := congrArg Registry.frozen (bare_registry_after_log s handle call level message args)
      change (s.after (.log handle call level message args)).registry.frozen = _ at hb
      rw [hb, Operation.delivers]
      by_cases hh : handle < s.loggers.length
      · simp [hh]
      · simp [hh, Registry.bare]
  | setLogLevel level tag =>
      show _ = (s.registry.frozen || false)
      rw [registry_after_setLogLevel, Registry.leveled_eq, Bool.or_false]
  | install source => simp [Operation.delivers]
  | reset => exact absurd rfl h

/-- The delivery that a history ends with comes first or later. -/
theorem deliveredSinceReset_cons (s : Session) (op : Operation) (ops : List Operation) :
    DeliveredSinceReset s (op :: ops)
      ↔ DeliveredSinceReset (s.after op) ops
        ∨ op.delivers s = true ∧ ∀ q ∈ ops, q ≠ .reset := by
  constructor
  · rintro ⟨earlier, q, later, he, hd, hl⟩
    -- the event is delivered at once, or by an operation of the rest
    cases earlier with
    | nil =>
        obtain ⟨rfl, rfl⟩ := List.cons.inj he
        exact Or.inr ⟨hd, hl⟩
    | cons q' earlier =>
        obtain ⟨rfl, rfl⟩ := List.cons.inj he
        exact Or.inl ⟨earlier, q, later, rfl, hd, hl⟩
  · rintro (⟨earlier, q, later, rfl, hd, hl⟩ | ⟨hd, hl⟩)
    · exact ⟨op :: earlier, q, later, rfl, hd, hl⟩
    · exact ⟨[], op, ops, rfl, hd, hl⟩

/-- A log call on a logger that was just asked for delivers an event. -/
theorem deliveredSinceReset_of_new_logger (s : Session) (ops : List Operation)
    (context : LoggerContext) (stack : Bool) (ticks : Int) (call : Call) (level : Int)
    (message : Value) (args : List Value) :
    DeliveredSinceReset s (ops ++ [.getLogger context stack ticks,
      .log (s.run ops).loggers.length call level message args]) := by
  refine ⟨ops ++ [.getLogger context stack ticks],
    .log (s.run ops).loggers.length call level message args, [], by simp, ?_, by simp⟩
  rw [Operation.delivers, run_append, run_cons, run_nil, loggers_after_getLogger]
  simp

/-- What each operation but a reset keeps while an invariant holds is kept by a history without a
    reset. -/
theorem run_const {α : Type} (inv : Session → Prop) (f : Session → α)
    (hstep : ∀ s op, inv s → op ≠ .reset → inv (s.after op) ∧ f (s.after op) = f s)
    (s : Session) (ops : List Operation) (h : inv s) (hn : ∀ op ∈ ops, op ≠ .reset) :
    f (s.run ops) = f s := by
  induction ops generalizing s with
  | nil => rfl
  | cons op ops ih =>
      obtain ⟨hi, hf⟩ := hstep s op h (hn op (by simp))
      exact (ih (s.after op) hi fun q hq => hn q (List.mem_cons_of_mem _ hq)).trans hf

/-- A registry is frozen after a history if it was frozen before and not reset, or by a delivery that
    no reset follows. -/
theorem frozen_run (s : Session) (ops : List Operation) :
    (s.run ops).registry.frozen = true
      ↔ DeliveredSinceReset s ops
        ∨ s.registry.frozen = true ∧ ∀ op ∈ ops, op ≠ .reset := by
  induction ops generalizing s with
  | nil =>
      have hn : ¬ DeliveredSinceReset s [] := by
        rintro ⟨earlier, op, later, he, -⟩
        simp at he
      simp [hn]
  | cons op ops ih =>
      rw [run_cons, ih, deliveredSinceReset_cons, List.forall_mem_cons]
      by_cases hr : op = .reset
      · -- what came before does not count, and the reset itself delivers nothing
        subst hr
        simp [Operation.delivers, Registry.empty]
      · rw [frozen_after s op hr, Bool.or_eq_true]
        constructor
        · rintro (hd | ⟨hf | hd, hn⟩)
          · exact Or.inl (Or.inl hd)
          · exact Or.inr ⟨hf, hr, hn⟩
          · exact Or.inl (Or.inr ⟨hd, hn⟩)
        · rintro ((hd | ⟨hd, hn⟩) | ⟨hf, -, hn⟩)
          · exact Or.inl hd
          · exact Or.inr ⟨Or.inr hd, hn⟩
          · exact Or.inr ⟨Or.inl hf, hn⟩

/-- A registry is frozen if and only if an event was delivered since the last reset. -/
theorem frozen_run_iff (zone : LocalZone) (ops : List Operation) :
    ((initial zone).run ops).registry.frozen = true
      ↔ DeliveredSinceReset (initial zone) ops := by
  have hf : ¬ (initial zone).registry.frozen = true := by
    simp [initial, Registry.empty]
  rw [frozen_run]
  exact or_iff_left fun h => hf h.1

end Session
end EventLog

import EventLog.Location
import EventLog.Logger

set_option autoImplicit false

/-! # What an event knows of the code that logs

A log call passes through functions of the logger before its event is made. They leave no trace: the event
has the method of the innermost frame outside of the logger, and this frame is the last one of the recorded
call stack, where a provider of source locations looks for it (`log_from_caller`). The method is something
that can be called, or else not known (`method_isCallable`). -/

namespace EventLog

/-- The frames of a call that `f` makes start with `f`. -/
theorem ActiveFrame.callers_eq {own rest : List ActiveFrame} {f : ActiveFrame}
    (hown : ∀ g ∈ own, g.isOwn = true) (hf : f.isOwn = false) :
    callers (own ++ f :: rest) = f :: rest := by
  rw [callers, List.dropWhile_append_of_pos hown, List.dropWhile_cons_of_neg (by simp [hf])]

/-- Only something that can be called is taken for a method. -/
theorem ActiveFrame.isCallable_of_method? {f : ActiveFrame} {c : Callable} (h : f.method? = some c) :
    c.isCallable = true := by
  have hfilter : ∀ {o : Option Callable}, o.filter (·.isCallable) = some c → c.isCallable = true :=
    fun ho => (Option.filter_eq_some_iff.1 ho).2
  unfold method? at h
  split at h
  · cases h
  · rcases Option.or_eq_some_iff.1 h with h | ⟨-, h⟩
    · obtain ⟨owner, -, ho⟩ := List.exists_of_findSome?_eq_some h
      exact hfilter ho
    · exact hfilter h

namespace Call

theorem method_isCallable (c : Call) : c.method.isCallable = true ∨ c.method = .nobody := by
  unfold method
  cases h : c.callers.head?.bind (·.method?) with
  | none => exact .inr rfl
  | some m =>
      obtain ⟨f, -, hm⟩ := Option.bind_eq_some_iff.1 h
      exact .inl (ActiveFrame.isCallable_of_method? hm)

end Call

namespace Logger

/-- The event of a call that `f` makes through functions of the logger, with the frames `rest` outside of
    it:

    1. It has the method of `f`, if this can be found; else the method is not known.
    2. If the logger records call stacks, the frame at depth 1 is that of `f`, and those of `rest` follow at
       greater depths.
    3. If it does not, there is no frame at any depth. -/
theorem log_from_caller (l : Logger) (call : Call) {own rest : List ActiveFrame} {f : ActiveFrame}
    (hframes : call.frames = own ++ f :: rest) (hown : ∀ g ∈ own, g.isOwn = true)
    (hf : f.isOwn = false) (level : Int) (message : Value) (args : List Value) :
    let e := (l.log call level message args).1
    e.method = f.method?.getD .nobody
      ∧ (l.capturesStack = true → ∀ n,
          LocationSource.frameAt? e.stack (n + 1) = ((f :: rest).map (·.summary))[n]?)
      ∧ (l.capturesStack = false → ∀ depth, LocationSource.frameAt? e.stack depth = none) := by
  intro e
  obtain ⟨error, properties, he⟩ := l.log_fst_eq call level message args
  have hcallers : call.callers = f :: rest := by
    rw [Call.callers, hframes, ActiveFrame.callers_eq hown hf]
  have hmethod : e.method = call.method := by
    rw [show e = _ from he]
    rfl
  have hstack : e.stack = if l.capturesStack then call.stack else [] := by
    rw [show e = _ from he]
    rfl
  refine ⟨?_, fun hc n => ?_, fun hc depth => ?_⟩
  · rw [hmethod, Call.method, hcallers]
    rfl
  · rw [hstack, if_pos hc, Call.stack, hcallers, LocationSource.frameAt?, if_neg (by omega),
      List.reverse_reverse]
    rfl
  · rw [hstack, hc, LocationSource.frameAt?]
    simp

end Logger
end EventLog

import EventLog.Proofs.Logger.Placeholders
import EventLog.Proofs.Session.Routing

set_option autoImplicit false

/-! # What becomes of the arguments of a log call

An argument that is put in the place of a placeholder is no more than its text. The others are read one
after the other: an exception becomes the error of the event, a mapping its properties, each in the place
of an earlier one, so that the last ones stay (`foldl_last`), and for any other argument a notice is
given. Notices about arguments are given before the event is delivered, and a delivery gives none
(`surplusNotices_deliver`), so what a log call says about its arguments is what is said while its event is
built. The main statement is `arguments_accounted_for`. -/

namespace EventLog

/-! ## The last one stays -/

/-- What steps write, each in the place of what was there, is what the last one that writes wrote. -/
theorem foldl_last {α β γ : Type} (step : β → α → β) (read : β → Option γ) (write : α → Option γ)
    (h : ∀ b a, read (step b a) = (write a).or (read b)) (as : List α) (b : β) :
    read (as.foldl step b) = (as.filterMap write).getLast?.or (read b) := by
  induction as generalizing b with
  | nil => rfl
  | cons a rest ih =>
      rw [List.foldl_cons, ih, h]
      cases hw : write a with
      | none => rw [List.filterMap_cons_none hw, Option.none_or]
      | some c =>
          rw [List.filterMap_cons_some hw, List.getLast?_cons]
          cases (rest.filterMap write).getLast? <;> rfl

namespace Value

/-- The exception that a value is. -/
def exception? : Value → Option Exception
  | error x => some x
  | _ => none

/-- The entries of the mapping that a value is. -/
def mapping? : Value → Option Entries
  | map es => some es
  | _ => none

/-- Whether the value is neither an exception nor a mapping. -/
def isPlain (v : Value) : Bool :=
  v.exception?.isNone && v.mapping?.isNone

end Value

/-- Arguments that take the place of placeholders are no more than their texts. -/
theorem Placeholder.fill_texts (ps : List Text) (args : List Value) :
    fill ps ((args.take ps.length).map (fun a => .str a.text) ++ args.drop ps.length)
      = fill ps args := by
  induction ps generalizing args with
  | nil => rfl
  | cons p ps ih =>
      cases args with
      | nil => rfl
      | cons a args =>
          rw [List.length_cons, List.take_succ_cons, List.drop_succ_cons, List.map_cons,
            List.cons_append, fill, fill, ih]
          rfl

namespace Logger

theorem error_foldl_attach (vs : List Value) (e : Event) :
    (vs.foldl attach e).error = (vs.filterMap Value.exception?).getLast?.or e.error :=
  foldl_last attach Event.error Value.exception? (fun e v => by cases v <;> rfl) vs e

theorem properties_foldl_attach (vs : List Value) (e : Event) :
    (vs.foldl attach e).properties = (vs.filterMap Value.mapping?).getLast?.or e.properties :=
  foldl_last attach Event.properties Value.mapping? (fun e v => by cases v <;> rfl) vs e

theorem surplus?_eq (v : Value) :
    surplus? v = if v.isPlain then some (.surplusArgument v.kindName) else none := by
  cases v <;> rfl

theorem filterMap_surplus? (vs : List Value) :
    vs.filterMap surplus? = (vs.filter Value.isPlain).map fun v => .surplusArgument v.kindName := by
  induction vs with
  | nil => rfl
  | cons v vs ih =>
      rw [List.filterMap_cons, surplus?_eq, ih]
      cases h : v.isPlain with
      | true => rw [List.filter_cons_of_pos h]; rfl
      | false => rw [List.filter_cons_of_neg (by simp [h])]; rfl

/-! The arguments after as many as there are placeholders are attached or ignored. -/

section

variable (l : Logger) (call : Call) (level : Int) (message : Value) (args : List Value)

theorem error_log :
    (l.log call level message args).1.error
      = ((args.drop (Placeholder.count message.text)).filterMap Value.exception?).getLast? := by
  rw [← Placeholder.substitute_snd]
  exact (error_foldl_attach _ _).trans Option.or_none

theorem properties_log :
    (l.log call level message args).1.properties
      = ((args.drop (Placeholder.count message.text)).filterMap Value.mapping?).getLast? := by
  rw [← Placeholder.substitute_snd]
  exact (properties_foldl_attach _ _).trans Option.or_none

theorem message_log :
    (l.log call level message args).1.message = (Placeholder.substitute message.text args).1 := by
  obtain ⟨error, properties, h⟩ := l.log_fst_eq call level message args
  rw [h]
  rfl

theorem notices_log :
    (l.log call level message args).2.1
      = ((args.drop (Placeholder.count message.text)).filter Value.isPlain).map
          fun v => .surplusArgument v.kindName := by
  rw [← Placeholder.substitute_snd]
  exact filterMap_surplus? _

theorem log_texts :
    l.log call level message
        ((args.take (Placeholder.count message.text)).map (fun a => .str a.text)
          ++ args.drop (Placeholder.count message.text))
      = l.log call level message args := by
  rw [log, log, Placeholder.substitute, Placeholder.substitute, Placeholder.count,
    Placeholder.fill_texts]

end

end Logger

/-! ## Notices about arguments -/

/-- Whether the notice is about an argument that is ignored. -/
def Notice.isSurplus : Notice → Bool
  | surplusArgument _ => true
  | _ => false

/-- The notices about arguments that were ignored so far. -/
def Environment.surplusNotices (env : Environment) : List Notice :=
  env.notices.filter Notice.isSurplus

theorem Layout.surplusNotices_format (layout : Text) (s : Scene) :
    (finalState (format layout s)).env.surplusNotices = s.env.surplusNotices := by
  obtain ⟨env, e⟩ := s
  have hfrom := rendition_isFrom env.zone env.provider e (env.fetch layout).1
  generalize hr : rendition env.zone env.provider e (env.fetch layout).1 = r at hfrom
  have hlookup : r.notices.filter Notice.isSurplus = [] := by
    refine List.filter_eq_nil_iff.2 fun n m => ?_
    obtain ⟨reason, rfl⟩ := hfrom.notices n m
    exact Bool.false_ne_true
  have hfetch : (env.fetch layout).2.notices.filter Notice.isSurplus
      = env.notices.filter Notice.isSurplus := by
    unfold Environment.fetch
    split
    · rfl
    · simp [Environment.compile, Environment.report, Notice.isSurplus]
  have hnotices : (finalState (format layout ⟨env, e⟩)).env.notices
      = (env.fetch layout).2.notices ++ r.notices := by
    rw [format_eq_inEnvironment, hr, Rendition.inEnvironment]
    cases r.stripped.result <;> rfl
  rw [Environment.surplusNotices, hnotices, List.filter_append, hlookup, List.append_nil, hfetch]
  rfl

/-- A delivery gives no notice about arguments. -/
theorem Registry.surplusNotices_deliver (e : Event) (o : Office) :
    (finalState (deliver e o)).env.surplusNotices = o.env.surplusNotices := by
  rw [deliver_eq, finalState_ended]
  refine Appender.keeps_appendAll (P := fun env => env.surplusNotices = o.env.surplusNotices)
    (fun env level t h => ?_) (fun a _ s h => ?_) ⟨o.env, e⟩ rfl
  · rw [Appender.writeLine_eq]
    exact h
  · exact (Layout.surplusNotices_format a.layout s).trans h

/-! ## Log calls -/

namespace Session

/-- Each argument of a log call has one fate. The message is cut at its placeholders, and `used` arguments,
    as many as there are placeholders or arguments, take their places, in order:

    1. The call gives one notice for each of the other arguments that is neither an exception nor a
       mapping, in order, and then delivers its event, however the delivery ends.
    2. The error of the event is the last exception among the other arguments, and its properties are the
       entries of the last mapping among them, if there are any.
    3. All that is said about ignored arguments is what the call says before its event is delivered.
    4. Of an argument that takes the place of a placeholder nothing but its text counts: if it is given as
       this text, the call does the same. -/
theorem arguments_accounted_for (s : Session) (handle : Nat) (l : Logger)
    (hl : s.loggers[handle]? = some l) (call : Call) (level : Int) (message : Value)
    (args : List Value) :
    ∃ (first : Text) (rest : List Text) (e : Event), Placeholder.Cut message.text first rest
      ∧ let used := min rest.length args.length
        let surplus := args.drop used
        let ignored := surplus.filter Value.isPlain
        let notices := ignored.map fun v => Notice.surplusArgument v.kindName
        perform (.log handle call level message args) s
            = inOffice (Registry.deliver e)
              { s with
                env := { s.env with notices := s.env.notices ++ notices }
                loggers := s.loggers.set handle { l with next := l.next + 1 } }
          ∧ e.message = (Placeholder.substitute message.text args).1
          ∧ e.error = (surplus.filterMap Value.exception?).getLast?
          ∧ e.properties = (surplus.filterMap Value.mapping?).getLast?
          ∧ (s.after (.log handle call level message args)).env.surplusNotices
              = s.env.surplusNotices ++ notices
          ∧ (∀ v, (Notice.surplusArgument v).line
              = "DEBUG patternlog.logger Ignoring surplus log argument of type ".toList ++ v)
          ∧ perform (.log handle call level message
                ((args.take used).map (fun a => .str a.text) ++ surplus)) s
              = perform (.log handle call level message args) s := by
  refine ⟨_, _, (l.log call level message args).1, Placeholder.cut_pieces message.text, ?_⟩
  intro used surplus ignored notices
  have htake : args.take used = args.take (Placeholder.count message.text) :=
    List.take_eq_take_min.symm
  have hsurplus : surplus = args.drop (Placeholder.count message.text) :=
    List.drop_eq_drop_min.symm
  have hnotices : (l.log call level message args).2.1 = notices := by
    rw [l.notices_log, ← hsurplus]
  refine ⟨?_, l.message_log .., ?_, ?_, ?_, fun _ => rfl, ?_⟩
  · rw [s.perform_log_eq hl, hnotices]
    rfl
  · rw [l.error_log, hsurplus]
  · rw [l.properties_log, hsurplus]
  · rw [after_eq_finalState, s.perform_log_eq hl, finalState_inOffice, hnotices]
    have hall : notices.filter Notice.isSurplus = notices := by
      refine List.filter_eq_self.2 fun n hn => ?_
      obtain ⟨v, -, rfl⟩ := List.mem_map.1 hn
      rfl
    refine (Registry.surplusNotices_deliver _ _).trans ?_
    show (s.env.notices ++ notices).filter Notice.isSurplus = _
    rw [List.filter_append, hall]
    rfl
  · rw [s.perform_log_eq hl, s.perform_log_eq hl, htake, hsurplus, l.log_texts]

/-- Only the first of three exceptions takes the place of a placeholder, and of two mappings the last one
    stays. -/
theorem arguments_accounted_for_mixed :
    let s := (initial .universal).run [.getLogger (.named "db") false 0]
    let failed (t : Text) : Value := .error (.simple "ValueError" t)
    let args : List Value :=
      [failed "\x7b\x7d", failed "early", .map [(.int 1, .null)], .bool true, failed "late", .map [], .int 7]
    s.loggers[0]? = some ⟨"db", false, 0, 1⟩
      ∧ ∃ e : Event,
        perform (.log 0 ⟨.millis 0, 0, []⟩ 200 (.str "a \x7b\x7d b") args) s
            = inOffice (Registry.deliver e)
              { s with
                env :=
                  { s.env with
                    notices := s.env.notices ++ [.surplusArgument "bool", .surplusArgument "int"] }
                loggers := s.loggers.set 0 ⟨"db", false, 0, 2⟩ }
          ∧ e.message = "a \x7b\x7d b"
          ∧ e.error = some (.simple "ValueError" "late")
          ∧ e.properties = some [] := by
  intro s failed args
  have hl : s.loggers[0]? = some ⟨"db", false, 0, 1⟩ := by decide +kernel
  obtain ⟨first, rest, e, hcut, hperform, hmessage, herror, hproperties, -⟩ :=
    arguments_accounted_for s 0 _ hl ⟨.millis 0, 0, []⟩ 200 (.str "a \x7b\x7d b") args
  obtain ⟨rfl, rfl⟩ := Prod.mk.inj (Placeholder.cut_iff.1 hcut)
  exact ⟨hl, e, hperform, hmessage, herror, hproperties⟩

end Session
end EventLog

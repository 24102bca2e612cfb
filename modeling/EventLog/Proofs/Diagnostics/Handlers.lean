import EventLog.Diagnostics
import EventLog.Proofs.Registry.Outcome

set_option autoImplicit false

/-! # One handler is set up at a time

The channel of notices is set up any number of times, while the host adds handlers of its own and notices are
passed on. The handlers of the host stay, in order, and there are never two that were set up. If the last call
that sets one up is accepted, the one handler is its own, and from then on every notice that is severe enough
is written once, to the stream of this call and to none of an earlier one (`setup_replaces_handler`).

A threshold of zero is none: the channel then has the inherited one. And a call whose format is refused leaves
no handler behind (`setup_without_effect`). Which formats are refused, and what the others make of a notice,
is left open. -/

namespace EventLog

namespace Handler

/-- What the handler writes to a stream for a notice. -/
def textFor (stream origin : Text) (s : Severity) (body : Text) (h : Handler) : Text :=
  match h.line? origin s body with
  | some (target, line) => if target = stream then line else []
  | none => []

theorem textFor_of_foreign {stream origin : Text} {s : Severity} {body : Text} {h : Handler}
    (hi : h.isInstalled = false) (hh : h ≠ .host stream) : h.textFor stream origin s body = [] := by
  rcases h with _ | target | ⟨target, format⟩
  · rfl
  · have ht : target ≠ stream := fun e => hh (by rw [e])
    simp [textFor, line?, ht]
  · cases hi

/-- Only what was set up writes to a stream that is none of the host's. -/
theorem flatMap_textFor {stream origin : Text} {s : Severity} {body : Text} {hs : List Handler}
    (hh : .host stream ∉ hs) :
    hs.flatMap (textFor stream origin s body)
      = (hs.filter (·.isInstalled)).flatMap (textFor stream origin s body) := by
  induction hs with
  | nil => rfl
  | cons h hs ih =>
      obtain ⟨hne, hrest⟩ := not_or.1 (mt List.mem_cons.2 hh)
      rw [List.flatMap_cons, ih hrest]
      by_cases hi : h.isInstalled = true
      · rw [List.filter_cons_of_pos hi, List.flatMap_cons]
      · rw [List.filter_cons_of_neg hi, textFor_of_foreign (by simpa using hi) (Ne.symm hne),
          List.nil_append]

end Handler

namespace Diagnostics

/-! ## Views of the channel -/

/-- The handlers that were set up. -/
def own (d : Diagnostics) : List Handler :=
  d.handlers.filter (·.isInstalled)

/-- The handlers that were not set up, in the order in which they were added. -/
def foreign (d : Diagnostics) : List Handler :=
  d.handlers.filter (!·.isInstalled)

/-- What a stream holds. -/
def content (d : Diagnostics) (stream : Text) : Text :=
  (d.streams.get? stream).getD []

theorem installedCount_eq (d : Diagnostics) : d.installedCount = d.own.length :=
  List.countP_eq_length_filter

theorem mem_handlers_of_foreign {d : Diagnostics} {h : Handler} (hi : h.isInstalled = false) :
    h ∈ d.handlers ↔ h ∈ d.foreign := by
  simp [foreign, hi]

/-! ## What is written -/

theorem get?_write (streams : Table Text Text) (line : Text × Text) (stream : Text) :
    ((write streams line).get? stream).getD []
      = (streams.get? stream).getD [] ++ if line.1 = stream then line.2 else [] := by
  by_cases h : line.1 = stream
  · subst h
    simp [write]
  · rw [write, Table.get?_put_of_ne _ _ (Ne.symm h), if_neg h, List.append_nil]

/-- A notice is written by all handlers in order, if it is severe enough. -/
theorem content_emit (d : Diagnostics) (origin : Text) (s : Severity) (body stream : Text) :
    (d.emit origin s body).content stream
      = d.content stream
        ++ if 0 < s ∧ d.effective ≤ s then d.handlers.flatMap (Handler.textFor stream origin s body)
          else [] := by
  have hwrite : ∀ (hs : List Handler) (streams : Table Text Text),
      (((hs.filterMap (Handler.line? origin s body)).foldl write streams).get? stream).getD []
        = (streams.get? stream).getD [] ++ hs.flatMap (Handler.textFor stream origin s body) := by
    intro hs
    induction hs with
    | nil => simp
    | cons h hs ih =>
        intro streams
        rw [List.filterMap_cons, List.flatMap_cons, Handler.textFor]
        rcases h.line? origin s body with _ | line
        · simpa using ih streams
        · simp [ih, get?_write]
  rw [content, emit]
  split
  · exact hwrite d.handlers d.streams
  · rw [List.append_nil, content]

/-! ## Histories -/

/-- What happens to the channel. -/
inductive Operation where
  | setup (threshold : Value) (format stream : Text)
  | addHost (stream : Text)
  | emit (origin : Text) (s : Severity) (body : Text)

namespace Operation

/-- Whether a handler is to be set up. -/
def isSetup : Operation → Bool
  | setup .. => true
  | _ => false

/-- The handler that the host adds, if this is what happens. -/
def host? : Operation → Option Handler
  | addHost stream => some (.host stream)
  | _ => none

theorem host?_eq_some_iff {op : Operation} {stream : Text} :
    op.host? = some (.host stream) ↔ op = .addHost stream := by
  rcases op with ⟨threshold, format, s⟩ | s | ⟨origin, s, body⟩ <;> simp [host?]

/-- The line that a formatter makes of a notice, if this is what happens and it is severe enough for a
    threshold. -/
def line (threshold : Severity) (formatter : Formatter) : Operation → Text
  | emit origin s body =>
      if 0 < s ∧ (if threshold = 0 then inherited else threshold) ≤ s then
        ((formatter origin s body).map (· ++ ['\n'])).getD []
      else []
  | _ => []

end Operation

variable (formatter? : Text → Option Formatter)

/-- The channel after something happened, also if it ended with a fault. -/
def after (d : Diagnostics) : Operation → Diagnostics
  | .setup threshold format stream => finalState (setup threshold format stream formatter? d)
  | .addHost stream => d.addHost stream
  | .emit origin s body => d.emit origin s body

/-- The channel after a history. -/
def run (d : Diagnostics) (ops : List Operation) : Diagnostics :=
  ops.foldl (after formatter?) d

theorem run_cons (d : Diagnostics) (op : Operation) (ops : List Operation) :
    run formatter? d (op :: ops) = run formatter? (after formatter? d op) ops := rfl

theorem run_append (d : Diagnostics) (earlier later : List Operation) :
    run formatter? d (earlier ++ later) = run formatter? (run formatter? d earlier) later :=
  List.foldl_append

/-! ## Setting up -/

variable {formatter?} in
/-- A call that sets up is accepted just if the format has a formatter and the threshold stands for one. -/
theorem setup_eq_ok_iff {d d' : Diagnostics} {threshold : Value} {format stream : Text} :
    setup threshold format stream formatter? d = .ok () d'
      ↔ ∃ formatter level, formatter? (usedFormat format) = some formatter
        ∧ thresholdOf threshold = .ok level
        ∧ d' = { d with
            handlers := d.foreign ++ [.installed stream formatter]
            threshold := level } := by
  unfold setup foreign
  rcases formatter? (usedFormat format) with _ | formatter
  · simp
  · rcases thresholdOf threshold with f | level
    · simp
    · simp [eq_comm]

/-- However a call that sets up ends, it leaves the streams and at most one handler of its own. -/
theorem after_setup (d : Diagnostics) (threshold : Value) (format stream : Text) :
    ∃ level, after formatter? d (.setup threshold format stream)
      = { d with
          handlers := d.foreign ++ ((formatter? (usedFormat format)).map (.installed stream)).toList
          threshold := level } := by
  rcases hf : formatter? (usedFormat format) with _ | formatter
  · exact ⟨d.threshold, by simp [after, setup, finalState, foreign, hf]⟩
  · rcases ht : thresholdOf threshold with f | level
    · exact ⟨d.threshold, by simp [after, setup, finalState, foreign, hf, ht]⟩
    · exact ⟨level, by simp [after, setup, finalState, foreign, hf, ht]⟩

theorem own_after_setup (d : Diagnostics) (threshold : Value) (format stream : Text) :
    (after formatter? d (.setup threshold format stream)).own
      = ((formatter? (usedFormat format)).map (.installed stream)).toList := by
  obtain ⟨level, h⟩ := d.after_setup formatter? threshold format stream
  rw [h]
  rcases formatter? (usedFormat format) with _ | formatter
  · simp [own, foreign]
  · simp [own, foreign, Handler.isInstalled]

/-! ## What stays -/

/-- The host's handlers stay in order, and only the host adds to them. -/
theorem foreign_after (d : Diagnostics) (op : Operation) :
    (after formatter? d op).foreign = d.foreign ++ op.host?.toList := by
  rcases op with ⟨threshold, format, stream⟩ | stream | ⟨origin, s, body⟩
  · obtain ⟨level, h⟩ := d.after_setup formatter? threshold format stream
    rw [h]
    rcases formatter? (usedFormat format) with _ | formatter
    · simp [foreign, Operation.host?]
    · simp [foreign, Handler.isInstalled, Operation.host?]
  · simp [after, addHost, foreign, Handler.isInstalled, Operation.host?]
  · simp [after, foreign, (d.handlers_emit origin s body).1, Operation.host?]

theorem foreign_run (d : Diagnostics) (ops : List Operation) :
    (run formatter? d ops).foreign = d.foreign ++ ops.filterMap Operation.host? := by
  induction ops generalizing d with
  | nil => simp [run]
  | cons op ops ih =>
      rw [run_cons, ih, foreign_after, List.append_assoc, List.filterMap_cons]
      rcases op.host? with _ | h <;> rfl

/-- Only a call that sets up changes the handler that was set up, and the threshold. -/
theorem after_of_not_setup (d : Diagnostics) {op : Operation} (h : op.isSetup = false) :
    (after formatter? d op).own = d.own ∧ (after formatter? d op).threshold = d.threshold := by
  rcases op with ⟨threshold, format, stream⟩ | stream | ⟨origin, s, body⟩
  · cases h
  · simp [after, addHost, own, Handler.isInstalled]
  · simp [after, own, d.handlers_emit origin s body]

/-- Never are there two handlers that were set up. -/
theorem length_own_run {d : Diagnostics} (h : d.own.length ≤ 1) (ops : List Operation) :
    (run formatter? d ops).own.length ≤ 1 := by
  induction ops generalizing d with
  | nil => exact h
  | cons op ops ih =>
      refine ih ?_
      rcases op with ⟨threshold, format, stream⟩ | stream | ⟨origin, s, body⟩
      · rw [own_after_setup]
        exact Option.length_toList_le
      · rwa [(d.after_of_not_setup formatter? rfl).1]
      · rwa [(d.after_of_not_setup formatter? rfl).1]

/-! ## Where notices go -/

/-- A stream that is none of the host's gets the line of a notice once, if a handler for it was set up. -/
theorem content_after_of_not_setup {d : Diagnostics} {target : Text} {formatter : Formatter}
    (hown : d.own = [.installed target formatter]) {op : Operation} (hop : op.isSetup = false)
    {stream : Text} (hh : .host stream ∉ d.handlers) :
    (after formatter? d op).content stream
      = d.content stream ++ if target = stream then op.line d.threshold formatter else [] := by
  rcases op with ⟨threshold, f, s⟩ | s | ⟨origin, s, body⟩
  · cases hop
  · simp [after, addHost, content, Operation.line]
  · have hlines : d.handlers.flatMap (Handler.textFor stream origin s body)
        = if target = stream then ((formatter origin s body).map (· ++ ['\n'])).getD [] else [] := by
      rw [Handler.flatMap_textFor hh]
      change d.own.flatMap _ = _
      rcases hf : formatter origin s body with _ | t <;>
        simp [hown, Handler.textFor, Handler.line?, hf]
    rw [after, content_emit, hlines, Operation.line, effective]
    by_cases ht : target = stream <;> simp [ht]

/-- As long as nothing else is set up, a stream that is none of the host's gets the lines of all notices, if
    a handler for it was set up. -/
theorem run_of_not_setup {d : Diagnostics} {target : Text} {formatter : Formatter}
    (hown : d.own = [.installed target formatter]) {ops : List Operation}
    (hops : ∀ op ∈ ops, op.isSetup = false) :
    (run formatter? d ops).own = d.own
      ∧ ∀ stream, .host stream ∉ d.foreign → .addHost stream ∉ ops →
        (run formatter? d ops).content stream
          = d.content stream
            ++ if target = stream then ops.flatMap (Operation.line d.threshold formatter) else [] := by
  induction ops generalizing d with
  | nil => simp [run]
  | cons op ops ih =>
      obtain ⟨hop, hrest⟩ := List.forall_mem_cons.1 hops
      obtain ⟨ho, ht⟩ := d.after_of_not_setup formatter? hop
      obtain ⟨hrun, hcontent⟩ := ih (ho.trans hown) hrest
      refine ⟨hrun.trans ho, fun stream hh hadd => ?_⟩
      obtain ⟨hne, hadd⟩ := not_or.1 (mt List.mem_cons.2 hadd)
      have hhost : .host stream ∉ (after formatter? d op).foreign := by
        rw [foreign_after, List.mem_append, Option.mem_toList, Operation.host?_eq_some_iff]
        exact not_or.2 ⟨hh, Ne.symm hne⟩
      rw [run_cons, hcontent stream hhost hadd, ht, content_after_of_not_setup formatter? hown hop
        (mt (mem_handlers_of_foreign rfl).1 hh), List.append_assoc]
      by_cases hs : target = stream <;> simp [hs]

theorem not_mem_foreign_run {stream : Text} {ops : List Operation} (h : .addHost stream ∉ ops) :
    .host stream ∉ (run formatter? initial ops).foreign := by
  rw [foreign_run, List.mem_append, List.mem_filterMap]
  rintro (hm | ⟨op, hm, hop⟩)
  · simp [initial, foreign, Handler.isInstalled] at hm
  · exact h (Operation.host?_eq_some_iff.1 hop ▸ hm)

/-! ## The last handler that is set up -/

variable {formatter?} in
/-- A call that is accepted leaves one handler, its own, and the threshold that it was given. -/
theorem after_of_setup_ok {d d' : Diagnostics} {threshold : Value} {format stream : Text}
    (h : setup threshold format stream formatter? d = .ok () d') :
    ∃ formatter, formatter? (usedFormat format) = some formatter
      ∧ after formatter? d (.setup threshold format stream) = d'
      ∧ d'.own = [.installed stream formatter]
      ∧ d'.streams = d.streams
      ∧ thresholdOf threshold = .ok d'.threshold := by
  have hafter : after formatter? d (.setup threshold format stream) = d' := by
    rw [after, h]
    rfl
  obtain ⟨formatter, level, hf, hlevel, rfl⟩ := setup_eq_ok_iff.1 h
  refine ⟨formatter, hf, hafter, ?_, rfl, hlevel⟩
  rw [← hafter, own_after_setup, hf]
  rfl

/-- A history of the channel and the last call in it that sets up a handler, whatever becomes of a format:

    1. All handlers that were not set up are there: the one that writes nothing, and the host's in the order in
       which they were added.
    2. There are never two handlers that were set up.
    3. The call is accepted if and only if its format has a formatter and its threshold stands for one.
    4. If it is accepted, its handler is the only one that was set up, whichever calls came before it. To its
       stream, each notice since then that is severe enough is written in one line, in order, if the formatter
       makes something of it, and nothing else; to any other stream that is not the host's, nothing. A
       threshold of zero stands for the inherited one. -/
theorem setup_replaces_handler (earlier later : List Operation) (threshold : Value)
    (format stream : Text) (hlater : ∀ op ∈ later, op.isSetup = false) :
    let start := run formatter? initial earlier
    let ops := earlier ++ .setup threshold format stream :: later
    let d := run formatter? initial ops
    d.foreign = .quiet :: ops.filterMap Operation.host?
      ∧ d.installedCount ≤ 1
      ∧ ((∃ d', setup threshold format stream formatter? start = .ok () d')
          ↔ ∃ formatter level, formatter? (usedFormat format) = some formatter
            ∧ thresholdOf threshold = .ok level)
      ∧ ∀ d', setup threshold format stream formatter? start = .ok () d' →
        ∃ formatter level, formatter? (usedFormat format) = some formatter
          ∧ thresholdOf threshold = .ok level
          ∧ d.own = [.installed stream formatter]
          ∧ ∀ target, .addHost target ∉ ops →
              d.content target = start.content target
                ++ if stream = target then later.flatMap (Operation.line level formatter) else [] := by
  intro start ops d
  refine ⟨foreign_run formatter? initial ops, ?_, ?_, fun d' hok => ?_⟩
  · rw [installedCount_eq]
    exact length_own_run formatter? (by decide) ops
  · simp only [setup_eq_ok_iff]
    constructor
    · rintro ⟨d', formatter, level, hf, hlevel, -⟩
      exact ⟨formatter, level, hf, hlevel⟩
    · rintro ⟨formatter, level, hf, hlevel⟩
      exact ⟨_, formatter, level, hf, hlevel, rfl⟩
  · obtain ⟨formatter, hf, hafter, hown, hstreams, hlevel⟩ := after_of_setup_ok hok
    obtain ⟨hrun, hcontent⟩ := run_of_not_setup formatter? hown hlater
    have hd : d = run formatter? d' later := by
      rw [← hafter, ← run_cons, ← run_append]
    refine ⟨formatter, d'.threshold, hf, hlevel, by rw [hd, hrun, hown], fun target hadd => ?_⟩
    obtain ⟨hbefore, hadd⟩ : .addHost target ∉ earlier ++ [.setup threshold format stream]
        ∧ .addHost target ∉ later := by
      simpa [ops, not_or] using hadd
    have hhost := not_mem_foreign_run formatter? hbefore
    rw [run_append, run_cons, run, List.foldl_nil, hafter] at hhost
    rw [hd, hcontent target hhost hadd, content, hstreams, content]

/-- The second call is refused, and the last one names its threshold. The host adds handlers at both ends. -/
theorem setup_replaces_handler_after_refusal :
    let earlier : List Operation :=
      [.addHost "host", .setup (.int 10) "%(message)s" "old", .setup (.int 10) "plain" "old",
        .emit "patternlog.logger" 40 "lost"]
    let later : List Operation :=
      [.emit "patternlog.logger" 10 "detail", .addHost "guest", .emit "patternlog.registry" 40 "refused"]
    let format : Text := "%(levelname)s %(message)s"
    let d := run Formatter.ofFormat? initial (earlier ++ .setup (.str "INFO") format "new" :: later)
    (∀ op ∈ later, op.isSetup = false)
      ∧ (∃ d', setup (.str "INFO") format "new" Formatter.ofFormat? (run Formatter.ofFormat? initial earlier)
          = .ok () d')
      ∧ d.installedCount = 1
      ∧ d.foreign = [.quiet, .host "host", .host "guest"]
      ∧ d.content "new" = "ERROR refused\n"
      ∧ d.content "old" = [] := by
  intro earlier later format d
  have hlater : ∀ op ∈ later, op.isSetup = false := by decide
  obtain ⟨hforeign, -, haccepted, hlast⟩ :=
    setup_replaces_handler Formatter.ofFormat? earlier later (.str "INFO") format "new" hlater
  obtain ⟨d', hok⟩ := haccepted.2 ⟨_, Severity.info, rfl, rfl⟩
  obtain ⟨formatter, level, hformatter, hlevel, hown, hcontent⟩ := hlast d' hok
  obtain rfl := Option.some.inj hformatter
  obtain rfl : Severity.info = level := Except.ok.inj hlevel
  refine ⟨hlater, ⟨d', hok⟩, ?_, hforeign, ?_, ?_⟩
  · rw [installedCount_eq, hown, List.length_singleton]
  · rw [hcontent "new" (by simp [earlier, later])]
    decide
  · rw [hcontent "old" (by simp [earlier, later])]
    decide

/-- With threshold zero a detail, though more severe than that, is written nowhere. And when a format was
    refused no handler is left that was set up, so that nothing is written at all. -/
theorem setup_without_effect :
    let silent := run Formatter.ofFormat? initial [.setup (.int 0) "%(message)s" "a"]
    let detail : Notice := .surplusArgument "int"
    let bare := run Formatter.ofFormat? initial
      [.setup (.int 30) "%(message)s" "a", .setup (.int 30) "plain" "b"]
    (silent.installedCount = 1 ∧ 0 ≤ detail.severity ∧ (silent.emitNotice detail).content "a" = [])
      ∧ bare.installedCount = 0 ∧ (bare.emitNotice .alreadyInUse).content "b" = [] := by
  decide

end Diagnostics
end EventLog

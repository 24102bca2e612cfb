import EventLog.Proofs.Rendering.History

set_option autoImplicit false

/-! # Exceptions are shown line by line

An exception that passed through a frame is shown as its report with a tab in front of every line, whatever
the report holds. One that passed through no frame has no report and is shown by its class and text with one
tab in front of the whole, so a line feed in the text starts a line without a tab (`exception_indented_iff`). -/

namespace EventLog

/-! ## Lines behind tabs -/

/-- Whether `shown` is lines with a tab in front and a line feed behind each, that without the tabs are
    `t`. -/
inductive Text.IsIndented : Text → Text → Prop
  | nil : IsIndented [] []
  | line {l shown t : Text} (hl : '\n' ∉ l) (h : IsIndented shown t) :
      IsIndented ('\t' :: (l ++ '\n' :: shown)) (l ++ '\n' :: t)

namespace Text

/-- Each line has one tab more than what is indented. -/
theorem IsIndented.length_eq {shown t : Text} (h : IsIndented shown t) :
    shown.length = t.length + t.count '\n' := by
  induction h with
  | nil => rfl
  | line hl h ih =>
      simp only [List.length_cons, List.length_append, List.count_append, List.count_cons_self,
        List.count_eq_zero.2 hl, ih]
      omega

theorem isIndented_flatMap {ls : List Text} (h : ∀ l ∈ ls, '\n' ∉ l) :
    IsIndented (ls.flatMap fun l => '\t' :: (l ++ ['\n'])) (ls.flatMap (· ++ ['\n'])) := by
  induction ls with
  | nil => exact .nil
  | cons l ls ih =>
      obtain ⟨hl, hls⟩ := List.forall_mem_cons.1 h
      simpa using IsIndented.line hl (ih hls)

theorem flatMap_append_eq_join (sep : Text) {ts : List Text} (h : ts ≠ []) :
    ts.flatMap (· ++ sep) = join sep ts ++ sep := by
  induction ts with
  | nil => exact absurd rfl h
  | cons t rest ih =>
      by_cases hr : rest = []
      · subst hr
        simp [join]
      · rw [List.flatMap_cons, ih hr, join_cons sep t hr]
        simp

/-- A text is indented line by line, whatever lines it has. -/
theorem isIndented_indent (t : Text) : IsIndented (Exception.indent t) (t ++ ['\n']) := by
  have h := isIndented_flatMap (not_mem_of_mem_parts '\n' t)
  rwa [flatMap_append_eq_join ['\n'] (parts_ne_nil '\n' t), join_parts] at h

/-- One tab in front of the whole indents a text just if it is one line. -/
theorem isIndented_one_tab_iff {t : Text} :
    IsIndented ('\t' :: (t ++ ['\n'])) (t ++ ['\n']) ↔ '\n' ∉ t := by
  constructor
  · intro h
    have hlength := h.length_eq
    rw [List.length_cons, List.count_append, List.count_singleton_self] at hlength
    rw [← List.count_eq_zero]
    omega
  · intro h
    exact .line h .nil

end Text

/-! ## What is shown of an exception -/

namespace Exception

/-- The text that is to be indented: the report without the line feeds at its end, or class and text. -/
def unindented (e : Exception) : Text :=
  match e.report with
  | some report => trimmed report
  | none => e.name ++ ": " ++ e.text

theorem indented_of_report {e : Exception} {report : Text} (h : e.report = some report) :
    e.indented = indent e.unindented := by
  rw [indented, unindented, h]

theorem indented_of_text {e : Exception} (h : e.report = none) (ht : e.text ≠ []) :
    e.indented = '\t' :: (e.unindented ++ ['\n']) := by
  have hte : e.text.isEmpty = false := by simpa using ht
  simp [indented, summary, unindented, h, hte]

theorem indented_of_no_text {e : Exception} (h : e.report = none) (ht : e.text = []) :
    e.indented = [] := by
  simp [indented, summary, h, ht]

end Exception

namespace Directive

theorem render_exception (params : List Text) (s : Scene) :
    render (some .exception) params s
      = .ok (some ((s.event.error.map Exception.indented).getD [])) s :=
  rfl

/-- The exception of an event is always shown, and changes nothing:

    1. It is shown as nothing, or as lines that each have a tab in front and a line feed behind and that
       without the tabs are what is to be indented and a line feed, if and only if the exception has a
       report, or its text is empty, or its class and text are one line.
    2. It is shown as nothing if and only if it has no report and its text is empty.
    3. If it has no report and its text is not empty, there is one tab, in front of the whole. -/
theorem exception_indented_iff (s : Scene) (e : Exception) (he : s.event.error = some e)
    (params : List Text) :
    ∃ shown, render (some .exception) params s = .ok (some shown) s
      ∧ (shown = [] ∨ Text.IsIndented shown (e.unindented ++ ['\n'])
          ↔ e.report.isSome = true ∨ e.text = [] ∨ '\n' ∉ e.unindented)
      ∧ (shown = [] ↔ e.report = none ∧ e.text = [])
      ∧ (e.report = none → e.text ≠ [] → shown = '\t' :: (e.unindented ++ ['\n'])) := by
  refine ⟨e.indented, by rw [render_exception, he]; rfl, ?_⟩
  cases hreport : e.report with
  | none =>
      by_cases htext : e.text = []
      · rw [Exception.indented_of_no_text hreport htext]
        simp [htext]
      · rw [Exception.indented_of_text hreport htext, Text.isIndented_one_tab_iff]
        simp [htext]
  | some report =>
      have hindented := Text.isIndented_indent e.unindented
      rw [← Exception.indented_of_report hreport] at hindented
      have hne : e.indented ≠ [] := by
        intro hnil
        have hlength := hindented.length_eq
        simp [hnil] at hlength
      simp [hindented, hne]

/-- An exception with a text of two lines and the exception that caused it, with the report of both. -/
theorem exception_indented_with_cause :
    let report : Text :=
      "ValueError: a\n\n\n\nThe above exception was the direct cause of the following exception:\n\n"
        ++ "Traceback (most recent call last):\n  File \"app.py\", line 3, in run\nOSError: b\nc\n\n"
    let e : Exception := { Exception.simple "OSError" "b\nc\n" with report := some report }
    let s : Scene := ⟨.initial .universal, { Event.placed none none with error := some e }⟩
    s.event.error = some e
      ∧ ∃ shown, render (some .exception) [] s = .ok (some shown) s
        ∧ Text.IsIndented shown (Exception.trimmed report ++ ['\n']) := by
  intro report e s
  have he : s.event.error = some e := rfl
  obtain ⟨shown, hshown, hindented, hnil, -⟩ := exception_indented_iff s e he []
  have hreport : e.report.isSome = true := rfl
  have hne : shown ≠ [] := fun h => by
    cases (hnil.1 h).1
  exact ⟨he, shown, hshown, (hindented.2 (Or.inl hreport)).resolve_left hne⟩

/-- Without a report, the second line of a text is shown without a tab. -/
theorem second_line_without_tab :
    let e : Exception := .simple "ValueError" "a\nb"
    let s : Scene := ⟨.initial .universal, { Event.placed none none with error := some e }⟩
    ∃ shown, render (some .exception) [] s = .ok (some shown) s
      ∧ shown = "\tValueError: a\nb\n"
      ∧ ¬ (shown = [] ∨ Text.IsIndented shown (e.name ++ ": " ++ e.text ++ "\n")) := by
  refine ⟨_, rfl, rfl, ?_⟩
  rintro (h | h)
  · cases h
  · exact absurd h.length_eq (by decide)

end Directive
end EventLog

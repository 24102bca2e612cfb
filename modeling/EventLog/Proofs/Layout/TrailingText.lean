import EventLog.Proofs.Layout.RoundTrip

set_option autoImplicit false

/-! # What a directive keeps of the text behind its name

Behind the name of a directive a chunk may hold parameters between braces and other text. Of the other
text only what follows the last closing brace is shown. So text in front of a parameter is dropped, and
so is everything up to a closing brace that closes nothing: in the layout `{"msg": "%m"}` the quote and
the brace behind `%m` are never shown.

`outside` is the other text as a whole; `parted_iff` says that it is what is left of a text when its
parameters are taken out. `compile_chunk` says which part of it is kept and which is lost, and that
nothing is lost exactly if only parameters stand in front of the last closing brace. -/

namespace EventLog.Layout

/-! ## The text outside of parameters -/

/-- A text consists of these parameters with their braces and of this other text, character by
    character. An opening brace without a closing one behind it is other text. -/
inductive Parted : Text → List Text → Text → Prop where
  | rest (t : Text) (h : '\x7d' ∉ t) : Parted t [] t
  | other (c : Char) (hc : c ≠ '\x7b') {t o : Text} {ps : List Text} (h : Parted t ps o) :
      Parted (c :: t) ps (c :: o)
  | param (p : Text) (hp : '\x7d' ∉ p) {t o : Text} {ps : List Text} (h : Parted t ps o) :
      Parted (braced p ++ t) (p :: ps) o

/-- The text outside of parameters, from the same states as `paramsFrom`. -/
def outsideFrom : Option Text → Text → Text
  | none, [] => []
  | some read, [] => '\x7b' :: read.reverse
  | none, c :: rest =>
      if c = '\x7b' then outsideFrom (some []) rest else c :: outsideFrom none rest
  | some read, c :: rest =>
      if c = '\x7d' then outsideFrom none rest else outsideFrom (some (c :: read)) rest

/-- The text without its parameters and their braces. -/
def outside (t : Text) : Text :=
  outsideFrom none t

theorem parted_from (t : Text) :
    Parted t (paramsFrom none t) (outsideFrom none t)
      ∧ ∀ read : Text, '\x7d' ∉ read →
          Parted ('\x7b' :: (read.reverse ++ t)) (paramsFrom (some read) t)
            (outsideFrom (some read) t) := by
  induction t with
  | nil =>
      refine ⟨Parted.rest [] (by simp), fun read hr => ?_⟩
      rw [paramsFrom, outsideFrom, List.append_nil]
      exact Parted.rest _ (by simpa using hr)
  | cons c rest ih =>
      obtain ⟨ihn, ihs⟩ := ih
      constructor
      · by_cases hc : c = '\x7b'
        · rw [paramsFrom, outsideFrom, if_pos hc, if_pos hc, hc]
          exact ihs [] (by simp)
        · rw [paramsFrom, outsideFrom, if_neg hc, if_neg hc]
          exact Parted.other c hc ihn
      · intro read hr
        by_cases hc : c = '\x7d'
        · have hb : '\x7b' :: (read.reverse ++ c :: rest) = braced read.reverse ++ rest := by
            simp [braced, hc]
          rw [paramsFrom, outsideFrom, if_pos hc, if_pos hc, hb]
          exact Parted.param read.reverse (by simpa using hr) ihn
        · have hb : read.reverse ++ c :: rest = (c :: read).reverse ++ rest := by simp
          rw [paramsFrom, outsideFrom, if_neg hc, if_neg hc, hb]
          exact ihs (c :: read) (by simp [hr, Ne.symm hc])

/-- A text consists of its parameters and the text outside of them. -/
theorem parted (t : Text) : Parted t (params t) (outside t) :=
  (parted_from t).1

/-- Where nothing else is, there are only parameters. -/
theorem Parted.eq_flatMap_braced {t o : Text} {ps : List Text} (h : Parted t ps o) (ho : o = []) :
    t = ps.flatMap braced := by
  induction h with
  | rest t _ => simpa using ho
  | other c _ _ _ => simp at ho
  | param p _ _ ih => rw [ih ho, List.flatMap_cons]

theorem Parted.length {t o : Text} {ps : List Text} (h : Parted t ps o) :
    t.length = (ps.flatMap braced).length + o.length := by
  induction h with
  | rest t _ => simp
  | other c _ _ ih => simp [ih, Nat.add_assoc]
  | param p _ _ ih => simp [ih, Nat.add_assoc]

/-! ## Up to a closing brace and behind it -/

/-- A closing brace ends what was read before it, as a parameter or not. -/
theorem outsideFrom_append_close (a b : Text) :
    ∀ read : Option Text,
      outsideFrom read (a ++ '\x7d' :: b) = outsideFrom read (a ++ ['\x7d']) ++ outside b := by
  induction a with
  | nil =>
      intro read
      cases read with
      | none => simp [outsideFrom, outside]
      | some read => simp [outsideFrom, outside]
  | cons c a ih =>
      intro read
      cases read with
      | none =>
          simp only [List.cons_append, outsideFrom]
          split
          · exact ih _
          · rw [ih, List.cons_append]
      | some read =>
          simp only [List.cons_append, outsideFrom]
          split
          · exact ih _
          · exact ih _

theorem paramsFrom_append_close (a b : Text) :
    ∀ read : Option Text,
      paramsFrom read (a ++ '\x7d' :: b) = paramsFrom read (a ++ ['\x7d']) ++ params b := by
  induction a with
  | nil =>
      intro read
      cases read with
      | none => simp [paramsFrom, params]
      | some read => simp [paramsFrom, params]
  | cons c a ih =>
      intro read
      cases read with
      | none =>
          simp only [List.cons_append, paramsFrom]
          exact ih _
      | some read =>
          simp only [List.cons_append, paramsFrom]
          split
          · rw [ih, List.cons_append]
          · exact ih _

/-- Without a closing brace all of a text is outside of parameters. -/
theorem outsideFrom_eq_self (t : Text) (h : '\x7d' ∉ t) :
    outsideFrom none t = t ∧ ∀ read, outsideFrom (some read) t = '\x7b' :: (read.reverse ++ t) := by
  induction t with
  | nil => simp [outsideFrom]
  | cons c rest ih =>
      have hc : c ≠ '\x7d' := fun e => h (by simp [e])
      obtain ⟨ihn, ihs⟩ := ih fun m => h (List.mem_cons_of_mem _ m)
      constructor
      · by_cases hb : c = '\x7b'
        · rw [outsideFrom, if_pos hb, ihs, hb]
          rfl
        · rw [outsideFrom, if_neg hb, ihn]
      · intro read
        rw [outsideFrom, if_neg hc, ihs]
        simp

theorem outside_eq_self (t : Text) (h : '\x7d' ∉ t) : outside t = t :=
  (outsideFrom_eq_self t h).1

theorem outsideFrom_some_append (read p rest : Text) (h : '\x7d' ∉ p) :
    outsideFrom (some read) (p ++ '\x7d' :: rest) = outside rest := by
  induction p generalizing read with
  | nil => simp [outsideFrom, outside]
  | cons c p ih =>
      have hc : c ≠ '\x7d' := fun e => h (by simp [e])
      have hp : '\x7d' ∉ p := fun m => h (List.mem_cons_of_mem _ m)
      rw [List.cons_append, outsideFrom, if_neg hc, ih (c :: read) hp]

/-- There is only one way to take the parameters out of a text. -/
theorem parted_iff (t : Text) (ps : List Text) (o : Text) :
    Parted t ps o ↔ ps = params t ∧ o = outside t := by
  constructor
  · intro h
    induction h with
    | rest t ht => exact ⟨(paramsFrom_eq_nil t ht none).symm, (outside_eq_self t ht).symm⟩
    | other c hc _ ih =>
        rw [params, outside, paramsFrom, outsideFrom, if_neg hc, if_neg hc]
        exact ⟨ih.1, congrArg (c :: ·) ih.2⟩
    | @param p hp t o ps _ ih =>
        have hb : braced p ++ t = '\x7b' :: (p ++ '\x7d' :: t) := by simp [braced]
        rw [hb, params, outside, paramsFrom, outsideFrom, if_pos rfl, if_pos rfl,
          paramsFrom_some_append [] p t hp, outsideFrom_some_append [] p t hp]
        exact ⟨congrArg (p :: ·) ih.1, ih.2⟩
  · rintro ⟨rfl, rfl⟩
    exact parted t

theorem outside_append_close (front tail : Text) (h : '\x7d' ∉ tail) :
    outside (front ++ '\x7d' :: tail) = outside (front ++ ['\x7d']) ++ tail := by
  rw [outside, outsideFrom_append_close, outside_eq_self tail h]
  rfl

theorem params_append_close (front tail : Text) (h : '\x7d' ∉ tail) :
    params (front ++ '\x7d' :: tail) = params (front ++ ['\x7d']) := by
  rw [params, paramsFrom_append_close, params, paramsFrom_eq_nil tail h, List.append_nil]
  rfl

/-! ## What is kept and what is lost -/

theorem tailText_of_no_close (rest : Text) (h : '\x7d' ∉ rest) : tailText rest = rest := by
  rw [tailText, (Text.afterLast?_eq_none_iff _ _).2 h]
  rfl

theorem tailText_append_close (front tail : Text) (h : '\x7d' ∉ tail) :
    tailText (front ++ '\x7d' :: tail) = tail := by
  rw [tailText, Text.afterLast?_append_cons _ _ _ h]
  rfl

/-- A text without a closing brace, or what stands in front of its last one and what stands behind. -/
theorem no_close_or_append_close (t : Text) :
    '\x7d' ∉ t ∨ ∃ front tail, t = front ++ '\x7d' :: tail ∧ '\x7d' ∉ tail := by
  by_cases h : '\x7d' ∈ t
  · obtain ⟨front, tail, ht, hf⟩ := List.eq_append_cons_of_mem (List.mem_reverse.2 h)
    refine Or.inr ⟨tail.reverse, front.reverse, ?_, by simpa using hf⟩
    rw [← List.reverse_reverse t, ht]
    simp
  · exact Or.inl h

/-- The text outside of parameters is lost up to the last closing brace, and kept from there on. -/
theorem outside_eq_lost_append (rest : Text) :
    ∃ lost, outside rest = lost ++ tailText rest
      ∧ (lost = [] ↔ ∃ tail, '\x7d' ∉ tail ∧ rest = (params rest).flatMap braced ++ tail) := by
  rcases no_close_or_append_close rest with h | ⟨front, tail, rfl, ht⟩
  · refine ⟨[], ?_, iff_of_true rfl ⟨rest, h, ?_⟩⟩
    · rw [outside_eq_self rest h, tailText_of_no_close rest h, List.nil_append]
    · rw [params, paramsFrom_eq_nil rest h]
      rfl
  · have ho := outside_append_close front tail ht
    have hp := params_append_close front tail ht
    refine ⟨outside (front ++ ['\x7d']), ?_, ?_⟩
    · rw [ho, tailText_append_close front tail ht]
    · constructor
      · intro hl
        refine ⟨tail, ht, ?_⟩
        rw [hp, ← (parted (front ++ ['\x7d'])).eq_flatMap_braced hl]
        simp
      · rintro ⟨tail', ht', he⟩
        -- both readings find the same last closing brace; then no characters are left to be lost
        have htail : tail = tail' := by
          rw [← tailText_append_close front tail ht, he, tailText_flatMap_braced _ _ ht']
        have hall := (parted (front ++ '\x7d' :: tail)).length
        have hkept := congrArg List.length he
        rw [ho] at hall
        rw [← htail] at hkept
        simp only [List.length_append] at hall hkept
        exact List.eq_nil_of_length_eq_zero (by omega)

/-! ## Chunks in a layout -/

theorem compile_percent (body : Text) (h : '%' ∉ body) :
    compile ('%' :: body) = [segment ('%' :: body)] := by
  simp [compile, chunks, Text.cut, Text.cut_eq_self '%' body h]

/-- A chunk ends where the layout ends or at the next percent sign. -/
theorem compile_append_chunk (before body following : Text) (hb : '%' ∉ body)
    (hf : following = [] ∨ following.head? = some '%') :
    compile (before ++ '%' :: body ++ following)
      = compile before ++ segment ('%' :: body) :: compile following := by
  rcases hf with rfl | hf
  · rw [List.append_nil, compile_append, compile_percent body hb, compile_nil]
  · obtain ⟨f, rfl⟩ := List.head?_eq_some_iff.1 hf
    rw [compile_append (before ++ '%' :: body) f, compile_append before body,
      compile_percent body hb]
    simp

/-- The segment of a chunk whose name resolves to a directive. -/
theorem segment_of_resolve (name rest : Text) (kind : Directive) (leftover : Text)
    (hname : name ≠ []) (hletters : name.all Text.isLetter = true)
    (hrest : startsWithLetter rest = false)
    (hkind : Directive.resolve name = (some kind, leftover)) :
    segment ('%' :: (name ++ rest))
      = .directive (some kind) (params rest) (leftover ++ tailText rest) := by
  obtain ⟨htake, hdrop⟩ := span_letters name rest hletters hrest
  have hempty : name.isEmpty = false := by simpa using hname
  simp only [segment, htake, hdrop, hempty, hkind]
  simp

/-- A chunk in the middle of a layout, with a name that resolves to a directive and the letters
    `leftover`, compiles to one segment of that directive. What follows the name is made up of
    parameters and other text in one way only; these are the parameters of the segment. Its text is
    `leftover` and the part `kept` of the other text:

    1. Without a closing brace that is all of it; otherwise it is what follows the last closing brace,
       and the text outside of parameters in front of that brace is lost.
    2. Nothing is lost if and only if nothing but parameters stands in front of the last closing
       brace. -/
theorem compile_chunk (before name rest following : Text) (kind : Directive) (leftover : Text)
    (hname : name ≠ []) (hletters : name.all Text.isLetter = true)
    (hrest : startsWithLetter rest = false) (hpercent : '%' ∉ rest)
    (hfollowing : following = [] ∨ following.head? = some '%')
    (hkind : Directive.resolve name = (some kind, leftover)) :
    (∀ ps text, Parted rest ps text ↔ ps = params rest ∧ text = outside rest)
      ∧ ∃ lost kept,
        compile (before ++ '%' :: (name ++ rest) ++ following)
            = compile before ++ .directive (some kind) (params rest) (leftover ++ kept)
                :: compile following
          ∧ outside rest = lost ++ kept
          ∧ ('\x7d' ∉ rest → kept = rest)
          ∧ (∀ front tail, rest = front ++ '\x7d' :: tail → '\x7d' ∉ tail →
              kept = tail ∧ lost = outside (front ++ ['\x7d']))
          ∧ (lost = [] ↔ ∃ tail, '\x7d' ∉ tail ∧ rest = (params rest).flatMap braced ++ tail) := by
  obtain ⟨lost, ho, hlost⟩ := outside_eq_lost_append rest
  refine ⟨parted_iff rest, lost, tailText rest, ?_, ho, tailText_of_no_close rest, ?_, hlost⟩
  · have hbody : '%' ∉ name ++ rest := by
      rw [List.mem_append, not_or]
      exact ⟨percent_not_mem_of_letters hletters, hpercent⟩
    rw [compile_append_chunk before (name ++ rest) following hbody hfollowing,
      segment_of_resolve name rest kind leftover hname hletters hrest hkind]
  · rintro front tail rfl ht
    have hk := tailText_append_close front tail ht
    refine ⟨hk, ?_⟩
    rw [outside_append_close front tail ht, hk] at ho
    exact (List.append_cancel_right ho).symm

/-- Letters run on behind the alias, and text stands between the parameters and behind a brace that
    closes nothing. -/
theorem compile_chunk_between_params :
    let rest : Text := "\x7bp\x7d, \x7bq\x7d: \x7d!"
    ('%' ∉ rest ∧ Directive.resolve "cX" = (some .logger, ("X" : Text)))
      ∧ params rest = [("p" : Text), "q"]
      ∧ ∃ lost kept,
        compile ("[" ++ '%' :: ("cX" ++ rest) ++ "%n")
            = compile "[" ++ .directive (some .logger) (params rest) ("X" ++ kept) :: compile "%n"
          ∧ outside rest = lost ++ kept ∧ kept = "!" ∧ lost = ", : \x7d" := by
  intro rest
  have hr : '%' ∉ rest ∧ Directive.resolve "cX" = (some .logger, ("X" : Text)) := by decide
  obtain ⟨-, lost, kept, hc, ho, -, hk, -⟩ := compile_chunk "[" "cX" rest "%n" .logger "X" (by decide)
    (by decide) (by decide) hr.1 (by decide) hr.2
  obtain ⟨hkept, hlost⟩ := hk "\x7bp\x7d, \x7bq\x7d: " "!" (by decide) (by decide)
  exact ⟨hr, by decide, lost, kept, hc, ho, hkept, hlost.trans (by decide)⟩

/-- In the layout `{"msg": "%m"}` the text behind the directive belongs to no parameter, but it is not
    part of the segment. -/
theorem compile_drops_closing_brace :
    let rest : Text := "\"\x7d"
    Directive.resolve "m" = (some .message, [])
      ∧ Parted rest (params rest) (outside rest) ∧ outside rest = rest
      ∧ compile ("\x7b\"msg\": \"" ++ '%' :: ("m" ++ rest))
        = [.literal "\x7b\"msg\": \"", .directive (some .message) [] []]
      ∧ compile ("\x7b\"msg\": \"" ++ '%' :: ("m" ++ rest))
        ≠ [.literal "\x7b\"msg\": \"",
            .directive (some .message) (params rest) ([] ++ outside rest)] := by
  intro rest
  exact ⟨by decide, parted rest, by decide, by decide, by decide⟩

end EventLog.Layout

import EventLog.Proofs.Layout.Chunks

set_option autoImplicit false

/-! # Layouts are read back as they were written

A layout that is put together from writable items compiles to the segments that these items stand
for: none is lost, none is added, and no two of them run into each other (`compile_print`). For
example `[%5%d{yyyy}{} - {x` is the literal `[`, the literal `%5` and the date directive with the
parameters `yyyy` and the empty text, in front of the literal text ` - {x`.

Four readings have to agree on where a part ends. Cutting at percent signs finds the items, because
no item holds a second percent sign. The run of letters is the alias, because no letter follows it.
The parameters are what stands between braces, because none holds a closing brace; and the last
closing brace of a chunk is that of its last parameter, because the text after it holds none. -/

namespace EventLog.Layout

/-! ## Parameters -/

/-- Without a closing brace there is no parameter. -/
theorem paramsFrom_eq_nil (t : Text) (h : '\x7d' ∉ t) :
    ∀ read : Option Text, paramsFrom read t = [] := by
  induction t with
  | nil => intro read; rw [paramsFrom]
  | cons c rest ih =>
      have hc : c ≠ '\x7d' := fun e => h (by simp [e])
      have hr : '\x7d' ∉ rest := fun m => h (List.mem_cons_of_mem _ m)
      intro read
      cases read with
      | none => rw [paramsFrom, ih hr]
      | some read => rw [paramsFrom, if_neg hc, ih hr]

/-- Inside a parameter everything up to the next closing brace belongs to it. -/
theorem paramsFrom_some_append (read p rest : Text) (h : '\x7d' ∉ p) :
    paramsFrom (some read) (p ++ '\x7d' :: rest)
      = (read.reverse ++ p) :: paramsFrom none rest := by
  induction p generalizing read with
  | nil => simp [paramsFrom]
  | cons c p ih =>
      have hc : c ≠ '\x7d' := fun e => h (by simp [e])
      have hp : '\x7d' ∉ p := fun m => h (List.mem_cons_of_mem _ m)
      rw [List.cons_append, paramsFrom, if_neg hc, ih (c :: read) hp]
      simp

/-- The parameters are those that were written, if nothing after them is one. -/
theorem params_flatMap_braced (ps : List Text) (after : Text) (hp : ∀ p ∈ ps, '\x7d' ∉ p)
    (ha : '\x7d' ∉ after) : params (ps.flatMap braced ++ after) = ps := by
  induction ps with
  | nil => exact paramsFrom_eq_nil after ha none
  | cons p ps ih =>
      have ih := ih fun q hq => hp q (List.mem_cons_of_mem _ hq)
      have hb : (p :: ps).flatMap braced ++ after
          = '\x7b' :: (p ++ '\x7d' :: (ps.flatMap braced ++ after)) := by
        simp [braced]
      rw [hb, params, paramsFrom, if_pos rfl, paramsFrom_some_append [] p _ (hp p (by simp))]
      rw [params] at ih
      rw [ih]
      rfl

/-! ## The text after the parameters -/

/-- The last closing brace is that of the last parameter. -/
theorem tailText_flatMap_braced (ps : List Text) (after : Text) (ha : '\x7d' ∉ after) :
    tailText (ps.flatMap braced ++ after) = after := by
  rcases List.eq_nil_or_concat ps with rfl | ⟨qs, p, rfl⟩
  · have hn : Text.afterLast? '\x7d' after = none := (Text.afterLast?_eq_none_iff _ _).2 ha
    simp [tailText, hn]
  · -- nothing but the last parameter and its braces stands between the others and the text
    have hb : (qs.concat p).flatMap braced ++ after
        = (qs.flatMap braced ++ '\x7b' :: p) ++ '\x7d' :: after := by
      simp [braced]
    rw [tailText, hb, Text.afterLast?_append_cons _ _ _ ha]
    rfl

/-! ## Names -/

/-- The letters at the start are all of `name`, if no letter follows it. -/
theorem span_letters (name rest : Text) (hn : name.all Text.isLetter = true)
    (hr : startsWithLetter rest = false) :
    (name ++ rest).takeWhile Text.isLetter = name
      ∧ (name ++ rest).dropWhile Text.isLetter = rest := by
  have hall : ∀ c ∈ name, Text.isLetter c = true := List.all_eq_true.1 hn
  rw [List.takeWhile_append_of_pos hall, List.dropWhile_append_of_pos hall]
  cases rest with
  | nil => simp
  | cons c rest =>
      have hc : Text.isLetter c = false := by simpa [startsWithLetter] using hr
      simp [hc]

theorem percent_not_mem_of_letters {name : Text} (h : name.all Text.isLetter = true) : '%' ∉ name :=
  Text.not_mem_of_letters rfl h

/-- What follows the name of a directive does not start with a letter. -/
theorem startsWithLetter_params (ps : List Text) (after : Text)
    (h : ps = [] → startsWithLetter after = false) :
    startsWithLetter (ps.flatMap braced ++ after) = false := by
  cases ps with
  | nil => simpa using h rfl
  | cons p ps =>
      have hb : Text.isLetter '\x7b' = false := by decide
      simpa [startsWithLetter, braced] using hb

/-! ## Items -/

namespace Item

/-- What the item writes behind its percent sign. -/
def body : Item → Text
  | percent t => t
  | directive name params after => name ++ (params.flatMap braced ++ after)

theorem text_eq (item : Item) : item.text = '%' :: item.body := by
  cases item <;> rfl

/-- The name of a writable directive is an alias of it. -/
theorem IsWritable.exists_alias {name : Text} {params : List Text} {after : Text}
    (h : (directive name params after).IsWritable) :
    ∃ kind, (name, kind) ∈ Directive.aliasTable := by
  obtain ⟨p, hp, rfl⟩ := List.mem_map.1 h.1
  exact ⟨p.2, hp⟩

/-- A writable item holds no percent sign but its first character. -/
theorem IsWritable.not_mem_body {item : Item} (h : item.IsWritable) : '%' ∉ item.body := by
  cases item with
  | percent t => exact h.1
  | directive name params after =>
      obtain ⟨kind, hk⟩ := h.exists_alias
      obtain ⟨-, hp, -, ha, -⟩ := h
      have hn : '%' ∉ name :=
        percent_not_mem_of_letters (Directive.isLetter_of_mem_aliasTable _ hk).2
      have hb : '%' ∉ params.flatMap braced := by
        intro m
        obtain ⟨p, hpm, hm⟩ := List.mem_flatMap.1 m
        have := (hp p hpm).2
        simp_all [braced]
      simp [body, hn, hb, ha]

end Item

/-- A writable item is read as the segment it stands for. -/
theorem segment_text (item : Item) (h : item.IsWritable) : segment item.text = item.segment := by
  cases item with
  | percent t =>
      have hs := (span_letters [] t rfl h.2).1
      rw [List.nil_append] at hs
      simp [Item.text, Item.segment, segment, hs]
  | directive name params after =>
      obtain ⟨kind, hk⟩ := h.exists_alias
      obtain ⟨-, hp, hba, -, hl⟩ := h
      obtain ⟨hne, hall⟩ := Directive.isLetter_of_mem_aliasTable _ hk
      -- the readings of the name, the parameters and the text after them, in this order
      obtain ⟨htake, hdrop⟩ := span_letters name (params.flatMap braced ++ after) hall
        (startsWithLetter_params params after hl)
      have hkind : Directive.lookup? name = some kind := Directive.lookup?_alias _ hk
      have hres : Directive.resolve name = (some kind, []) := Directive.resolve_alias _ hk
      have hparams := params_flatMap_braced params after (fun p m => (hp p m).1) hba
      have htail := tailText_flatMap_braced params after hba
      have hempty : name.isEmpty = false := by simpa using hne
      simp only [Item.text, Item.segment, segment, htake, hdrop, hempty, hres, hparams, htail, hkind]
      simp

/-! ## Layouts -/

/-- The chunks of a written layout are its items, because none of them holds a second percent sign. -/
theorem chunks_print (first : Text) (items : List Item) (hf : '%' ∉ first)
    (hi : ∀ item ∈ items, item.IsWritable) :
    chunks (print first items) = (first, items.map Item.text) := by
  refine isDivision_iff.1 ⟨?_, hf, fun c hc => ?_⟩
  · rw [print, List.flatMap_def]
  · obtain ⟨item, hitem, rfl⟩ := List.mem_map.1 hc
    exact ⟨item.body, item.text_eq, (hi item hitem).not_mem_body⟩

/-- A layout that is written from a literal text without a percent sign and writable items compiles
    to these, in order: the literal text unless it is empty, and for each item its segment. The
    segment of a directive is that of the directive whose alias was written. -/
theorem compile_print (first : Text) (items : List Item) (hf : '%' ∉ first)
    (hi : ∀ item ∈ items, item.IsWritable) :
    compile (print first items)
        = (if first = [] then [] else [.literal first]) ++ items.map Item.segment
      ∧ ∀ name params after, .directive name params after ∈ items →
          ∃ kind : Directive, name ∈ kind.aliases
            ∧ Item.segment (.directive name params after)
              = .directive (some kind) params after := by
  constructor
  · have hs : items.map (segment ∘ Item.text) = items.map Item.segment :=
      List.map_congr_left fun item m => segment_text item (hi item m)
    rw [compile, chunks_print first items hf hi]
    simp [hs]
  · intro name params after hm
    obtain ⟨kind, hk⟩ := (hi _ hm).exists_alias
    have hkind : Directive.lookup? name = some kind := Directive.lookup?_alias _ hk
    refine ⟨kind, Directive.mem_aliases_of_mem_aliasTable _ hk, ?_⟩
    rw [Item.segment, hkind]

/-- A parameter with an opening brace in it, an empty one, and an opening brace behind them. -/
theorem compile_print_braces :
    '%' ∉ ("[" : Text)
      ∧ (∀ item ∈ [Item.percent "5", .directive "d" ["yy\x7byy", ""] " - \x7bx",
          .directive "msg" [] "] done"], item.IsWritable)
      ∧ compile (print "[" [.percent "5", .directive "d" ["yy\x7byy", ""] " - \x7bx",
          .directive "msg" [] "] done"])
        = [.literal "[", .literal "%5", .directive (some .date) ["yy\x7byy", ""] " - \x7bx",
            .directive (some .message) [] "] done"] :=
  ⟨by decide, by decide, (compile_print "[" _ (by decide) (by decide)).1⟩

end EventLog.Layout

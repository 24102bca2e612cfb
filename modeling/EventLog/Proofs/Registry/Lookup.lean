import EventLog.Proofs.Registry.Invariant

set_option autoImplicit false

/-! # What is found under a tag

A tag may be spelled in several ways, as `1` and `true` are, and the registry keeps the spelling that
came first. `appenders?` looks a tag up however it is spelled. Entering appenders for a tag changes
what is found under this tag and under no other (`appenders?_withEntry`); of several entries the last
one counts (`appenders?_withEntries`). So entries leave a registry as it is exactly if the last of them
for each tag asks for the appenders that the tag has (`withEntries_eq_self_iff`). -/

namespace EventLog.Registry

/-- The appenders of a tag, if there is such a tag. -/
def appenders? (r : Registry) (tag : Key) : Option (List Appender) :=
  r.loggers.get? (r.tagFor tag)

/-- What the last of the entries for a tag asks for. -/
def lastFor : List (Key × List Appender) → Key → Option (List Appender)
  | [], _ => none
  | p :: rest, tag => (lastFor rest tag).or (if p.1.same tag then some p.2 else none)

/-! ## Spellings of a tag -/

theorem tagFor_same (r : Registry) (tag : Key) : (r.tagFor tag).same tag = true := by
  unfold tagFor
  cases h : r.loggers.keys.find? (·.same tag) with
  | none => exact Key.same_self tag
  | some k => simpa using List.find?_some h

/-- Only the known spellings count. -/
theorem tagFor_congr {r r' : Registry} (h : r'.loggers.keys = r.loggers.keys) (tag : Key) :
    r'.tagFor tag = r.tagFor tag := by
  rw [tagFor, tagFor, h]

/-- A known tag is spelled as it is known. -/
theorem WellFormed.tagFor_of_mem {r : Registry} (h : r.WellFormed) {k : Key}
    (hk : k ∈ r.loggers.keys) : r.tagFor k = k := by
  -- no tag before `k` is the same key, so the search goes on up to `k` itself
  have hfind : ∀ keys : List Key, keys.Pairwise (fun k l => k.same l = false) → k ∈ keys →
      keys.find? (·.same k) = some k := by
    intro keys ht hm
    induction keys with
    | nil => cases hm
    | cons l rest ih =>
        obtain ⟨hl, hrest⟩ := List.pairwise_cons.1 ht
        rcases List.mem_cons.1 hm with rfl | hm
        · simp [Key.same_self]
        · rw [List.find?_cons, hl k hm]
          exact ih hrest hm
  rw [tagFor, hfind _ h.tags hk]
  rfl

/-- A tag that has appenders is known in some spelling. -/
theorem tagFor_mem_keys {r : Registry} {tag : Key} {as : List Appender}
    (h : r.appenders? tag = some as) : r.tagFor tag ∈ r.loggers.keys :=
  (Table.has_iff_mem_keys _ _).1 (Option.isSome_iff_exists.2 ⟨as, h⟩)

/-! ## One entry -/

/-- How a tag is spelled after appenders were entered for a tag. -/
theorem tagFor_withEntry (r : Registry) (p : Key × List Appender) (tag : Key) :
    (r.withEntry p).tagFor tag = if p.1.same tag then r.tagFor p.1 else r.tagFor tag := by
  rw [tagFor, keys_withEntry]
  by_cases hs : p.1.same tag = true
  · have hcongr : (fun k : Key => k.same tag) = fun k => k.same p.1 :=
      funext fun k => (Key.same_congr hs k).symm
    rw [if_pos hs, tagFor, hcongr]
    cases hf : r.loggers.keys.find? (·.same p.1) with
    | some k =>
        dsimp only
        rw [hf]
        rfl
    | none =>
        dsimp only
        rw [List.find?_append, hf, Option.none_or, List.find?_cons, Key.same_self]
        rfl
  · rw [if_neg hs]
    cases hf : r.loggers.keys.find? (·.same p.1) with
    | some k => rfl
    | none =>
        dsimp only
        rw [List.find?_append, List.find?_cons, eq_false_of_ne_true hs, List.find?_nil,
          Option.or_none, tagFor]

/-- Entering appenders for a tag changes what is found under this tag and under no other. -/
theorem appenders?_withEntry (r : Registry) (p : Key × List Appender) (tag : Key) :
    (r.withEntry p).appenders? tag
      = if p.1.same tag then some p.2 else r.appenders? tag := by
  rw [appenders?, tagFor_withEntry]
  by_cases hs : p.1.same tag = true
  · rw [if_pos hs, if_pos hs]
    exact Table.get?_put_self _ _ _
  · -- two tags that share a spelling would be the same key
    have hne : r.tagFor tag ≠ r.tagFor p.1 := by
      intro e
      have h₁ := Key.same_symm (tagFor_same r p.1)
      rw [← e] at h₁
      exact hs (Key.same_trans h₁ (tagFor_same r tag))
    rw [if_neg hs, if_neg hs]
    exact Table.get?_put_of_ne _ _ hne

/-! ## Several entries -/

/-- Of several entries the last one for a tag counts. -/
theorem appenders?_withEntries (r : Registry) (es : List (Key × List Appender)) (tag : Key) :
    (r.withEntries es).appenders? tag = (lastFor es tag).or (r.appenders? tag) := by
  induction es generalizing r with
  | nil => rfl
  | cons p es ih =>
      have hp := appenders?_withEntry r p tag
      rw [withEntries, List.foldl_cons, ← withEntries, ih, hp, lastFor, Option.or_assoc]
      by_cases hs : p.1.same tag = true
      · rw [if_pos hs, if_pos hs]
        rfl
      · rw [if_neg hs, if_neg hs]
        rfl

/-- The last entry for a tag is the first one from the end. -/
theorem lastFor_eq_find? (es : List (Key × List Appender)) (tag : Key) :
    lastFor es tag = (es.reverse.find? (·.1.same tag)).map (·.2) := by
  induction es with
  | nil => rfl
  | cons p es ih =>
      rw [lastFor, ih, List.reverse_cons, List.find?_append, Option.map_or]
      congr 1
      cases h : p.1.same tag <;> simp [h]

/-- The last of several entries for a text is the last one with this tag. -/
theorem lastFor_map {α : Type} (name : α → Text) (appenders : α → List Appender) (ds : List α)
    (tag : Text) :
    lastFor (ds.map fun d => (.str (name d), appenders d)) (.str tag)
      = (ds.reverse.find? (name · = tag)).map appenders := by
  have hsame : ∀ d, (Key.str (name d)).same (.str tag) = decide (name d = tag) := fun d => by
    rw [Bool.eq_iff_iff, Key.same_str_iff, decide_eq_true_iff, Key.str.injEq]
  rw [lastFor_eq_find?, ← List.map_reverse, List.find?_map, Option.map_map]
  simp only [Function.comp_def, hsame]

theorem exists_lastFor {es : List (Key × List Appender)} {p : Key × List Appender}
    (h : p ∈ es) : ∃ as, lastFor es p.1 = some as := by
  induction es with
  | nil => cases h
  | cons q es ih =>
      rw [lastFor]
      cases hl : lastFor es p.1 with
      | some as => exact ⟨as, rfl⟩
      | none =>
          rcases List.mem_cons.1 h with rfl | h
          · exact ⟨p.2, by rw [if_pos (Key.same_self p.1)]; rfl⟩
          · obtain ⟨as, has⟩ := ih h
            rw [hl] at has
            cases has

/-- Entries for known tags keep the tags. -/
theorem keys_withEntries (r : Registry) (es : List (Key × List Appender))
    (h : ∀ p ∈ es, r.tagFor p.1 ∈ r.loggers.keys) :
    (r.withEntries es).loggers.keys = r.loggers.keys := by
  induction es generalizing r with
  | nil => rfl
  | cons p es ih =>
      have hk : (r.withEntry p).loggers.keys = r.loggers.keys := by
        rw [withEntry, Table.keys_put, if_pos (h p (by simp))]
      have hr : ∀ q ∈ es, (r.withEntry p).tagFor q.1 ∈ (r.withEntry p).loggers.keys := by
        intro q hq
        rw [tagFor_congr hk, hk]
        exact h q (List.mem_cons_of_mem _ hq)
      exact (ih (r.withEntry p) hr).trans hk

/-- Entries leave a registry as it is exactly if the last of them for each tag asks for what the tag
    has already. -/
theorem withEntries_eq_self_iff {r : Registry} (h : r.WellFormed)
    (es : List (Key × List Appender)) :
    r.withEntries es = r
      ↔ ∀ tag as, lastFor es tag = some as → r.appenders? tag = some as := by
  constructor
  · intro he tag as hl
    have hw := appenders?_withEntries r es tag
    rw [he, hl] at hw
    exact hw
  · intro hl
    -- an entry with an unknown tag would ask for something that the tag does not have
    have hk : (r.withEntries es).loggers.keys = r.loggers.keys := by
      refine keys_withEntries r es fun p hp => ?_
      obtain ⟨as, has⟩ := exists_lastFor hp
      exact tagFor_mem_keys (hl p.1 as has)
    have hn : r.loggers.keys.Nodup :=
      h.tags.imp fun {k l} hkl e => by simp [e, Key.same_self] at hkl
    have hget : ∀ k ∈ r.loggers.keys,
        (r.withEntries es).loggers.get? k = r.loggers.get? k := by
      intro k hm
      have ht := h.tagFor_of_mem hm
      have ht' : (r.withEntries es).tagFor k = k := (tagFor_congr hk k).trans ht
      have hw := appenders?_withEntries r es k
      rw [appenders?, appenders?, ht, ht'] at hw
      rw [hw]
      cases hf : lastFor es k with
      | none => rfl
      | some as =>
          have := hl k as hf
          rw [appenders?, ht] at this
          rw [this]
          rfl
    have ht : (r.withEntries es).loggers = r.loggers :=
      Table.ext_get? _ _ hk (hk ▸ hn) fun k hm => hget k (hk ▸ hm)
    rw [withEntries_eq, ht]

end EventLog.Registry

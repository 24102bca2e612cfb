set_option autoImplicit false

/-! # Tables in order of first entry

A table pairs keys with what is stored under them. Storing under a new key puts the pair at the end,
storing under a known one replaces what was there and keeps its place. So the keys stand in the
order in which they were first used and none occurs twice. The laws give what a look-up finds after
a step and which keys there are. -/

namespace EventLog

/-- Pairs of a key and what is stored under it. -/
abbrev Table (α β : Type) := List (α × β)

namespace Table

variable {α β : Type} [DecidableEq α]

/-- What is stored under the key. -/
def get? : Table α β → α → Option β
  | [], _ => none
  | (k, v) :: rest, key => if k = key then some v else get? rest key

/-- The table with `v` stored under the key. -/
def put : Table α β → α → β → Table α β
  | [], key, v => [(key, v)]
  | (k, w) :: rest, key, v => if k = key then (k, v) :: rest else (k, w) :: put rest key v

/-- The keys in order. -/
def keys (t : Table α β) : List α :=
  t.map (·.1)

/-- The table with a function applied to everything that is stored in it. -/
def mapValues {γ : Type} (f : β → γ) (t : Table α β) : Table α γ :=
  t.map fun p => (p.1, f p.2)

/-- Whether something is stored under the key. -/
def has (t : Table α β) (key : α) : Bool :=
  (get? t key).isSome

@[simp] theorem get?_nil (key : α) : get? ([] : Table α β) key = none := rfl

@[simp] theorem get?_put_self (t : Table α β) (key : α) (v : β) :
    get? (put t key v) key = some v := by
  induction t with
  | nil => simp [put, get?]
  | cons p rest ih =>
      by_cases h : p.1 = key
      · simp [put, get?, h]
      · simp [put, get?, h, ih]

theorem get?_put_of_ne (t : Table α β) {key other : α} (v : β) (h : other ≠ key) :
    get? (put t key v) other = get? t other := by
  induction t with
  | nil => simp [put, get?, Ne.symm h]
  | cons p rest ih =>
      by_cases hk : p.1 = key
      · simp [put, get?, hk, Ne.symm h]
      · by_cases ho : p.1 = other
        · have hne : ¬ other = key := h
          simp [put, get?, ho, hne]
        · simp [put, get?, hk, ho, ih]

theorem has_iff_mem_keys (t : Table α β) (key : α) : has t key = true ↔ key ∈ keys t := by
  induction t with
  | nil => simp [has, keys]
  | cons p rest ih =>
      by_cases h : p.1 = key
      · simp [has, keys, get?, h]
      · simpa [has, keys, get?, h, Ne.symm h] using ih

/-- A known key keeps its place, and a new one comes last. -/
theorem keys_put (t : Table α β) (key : α) (v : β) :
    keys (put t key v) = if key ∈ keys t then keys t else keys t ++ [key] := by
  induction t with
  | nil => simp [put, keys]
  | cons p rest ih =>
      by_cases h : p.1 = key
      · simp [put, keys, h]
      · have hk : ¬ key = p.1 := Ne.symm h
        simp only [keys, put, h, if_false, List.map_cons, List.mem_cons, hk, false_or] at ih ⊢
        rw [ih]
        split <;> simp_all

/-- Storing under a new key puts the pair at the end. -/
theorem put_of_not_has (t : Table α β) (key : α) (v : β) (h : has t key = false) :
    put t key v = t ++ [(key, v)] := by
  induction t with
  | nil => rfl
  | cons p rest ih =>
      have hp : p.1 ≠ key := fun e => by simp [has, get?, e] at h
      have hr : has rest key = false := by simpa [has, get?, hp] using h
      rw [put, if_neg hp, ih hr, List.cons_append]

/-- Storing what is stored already changes nothing. -/
theorem put_of_get? (t : Table α β) (key : α) (v : β) (h : get? t key = some v) :
    put t key v = t := by
  induction t with
  | nil => simp at h
  | cons p rest ih =>
      by_cases hp : p.1 = key
      · have hv : p.2 = v := by simpa [get?, hp] using h
        rw [put, if_pos hp, ← hv]
      · have hr : get? rest key = some v := by simpa [get?, hp] using h
        rw [put, if_neg hp, ih hr]

/-- Every pair of the table after storing is the new one or was there before. -/
theorem mem_put (t : Table α β) (key : α) (v : β) (p : α × β) (h : p ∈ put t key v) :
    p = (key, v) ∨ p ∈ t := by
  induction t with
  | nil => exact Or.inl (List.mem_singleton.1 h)
  | cons q rest ih =>
      by_cases hq : q.1 = key
      · rw [put, if_pos hq, hq] at h
        exact (List.mem_cons.1 h).imp_right (List.mem_cons_of_mem _)
      · rw [put, if_neg hq] at h
        rcases List.mem_cons.1 h with rfl | h
        · exact Or.inr (by simp)
        · exact (ih h).imp_right (List.mem_cons_of_mem _)

/-- Every pair is found under its key, if no key occurs twice. -/
theorem get?_of_mem (t : Table α β) (p : α × β) (hn : (keys t).Nodup) (h : p ∈ t) :
    get? t p.1 = some p.2 := by
  induction t with
  | nil => simp at h
  | cons q rest ih =>
      obtain ⟨hq, hn⟩ : q.1 ∉ keys rest ∧ (keys rest).Nodup := List.nodup_cons.1 hn
      rcases List.mem_cons.1 h with rfl | h
      · simp [get?]
      · have hk : p.1 ∈ keys rest := List.mem_map_of_mem h
        have hne : q.1 ≠ p.1 := fun e => hq (by rw [e]; exact hk)
        rw [get?, if_neg hne, ih hn h]

/-- What is found under a key is one of the pairs. -/
theorem mem_of_get? (t : Table α β) {key : α} {v : β} (h : get? t key = some v) : (key, v) ∈ t := by
  induction t with
  | nil => simp at h
  | cons p rest ih =>
      by_cases hp : p.1 = key
      · have hv : p.2 = v := by simpa [get?, hp] using h
        rw [← hp, ← hv]
        exact List.mem_cons_self
      · have hr : get? rest key = some v := by simpa [get?, hp] using h
        exact List.mem_cons_of_mem _ (ih hr)

/-- What is found in a table is found in every table that goes on after it. -/
theorem get?_append_of_get? (t t' : Table α β) (key : α) (v : β) (h : get? t key = some v) :
    get? (t ++ t') key = some v := by
  induction t with
  | nil => simp at h
  | cons p rest ih =>
      by_cases hp : p.1 = key
      · simpa [get?, hp] using h
      · have hr : get? rest key = some v := by simpa [get?, hp] using h
        rw [List.cons_append, get?, if_neg hp, ih hr]

/-- Tables with the same keys in the same order that agree on each of these are equal. -/
theorem ext_get? (t t' : Table α β) (hk : keys t = keys t') (hn : (keys t).Nodup)
    (hg : ∀ key ∈ keys t, get? t key = get? t' key) : t = t' := by
  induction t generalizing t' with
  | nil =>
      cases t' with
      | nil => rfl
      | cons q rest => simp [keys] at hk
  | cons p rest ih =>
      cases t' with
      | nil => simp [keys] at hk
      | cons q rest' =>
          obtain ⟨hpq, hk'⟩ : p.1 = q.1 ∧ keys rest = keys rest' := by simpa [keys] using hk
          obtain ⟨hp, hn'⟩ : p.1 ∉ keys rest ∧ (keys rest).Nodup := List.nodup_cons.1 hn
          have hv : p.2 = q.2 := by
            have := hg p.1 (by simp [keys])
            simpa [get?, hpq] using this
          have hr : rest = rest' := by
            refine ih rest' hk' hn' fun key hm => ?_
            have hne : p.1 ≠ key := fun e => hp (by rw [e]; exact hm)
            have := hg key (List.mem_cons_of_mem _ hm)
            simpa [get?, hne, hpq ▸ hne] using this
          rw [hr, Prod.ext hpq hv]

/-! ## Functions on what is stored -/

variable {γ : Type} (f : β → γ)

omit [DecidableEq α] in
@[simp] theorem keys_mapValues (t : Table α β) : keys (mapValues f t) = keys t := by
  simp [keys, mapValues]

@[simp] theorem get?_mapValues (t : Table α β) (key : α) :
    get? (mapValues f t) key = (get? t key).map f := by
  induction t with
  | nil => rfl
  | cons p rest ih =>
      by_cases hp : p.1 = key
      · simp [mapValues, get?, hp]
      · simpa [mapValues, get?, hp] using ih

theorem mapValues_put (t : Table α β) (key : α) (v : β) :
    mapValues f (put t key v) = put (mapValues f t) key (f v) := by
  induction t with
  | nil => rfl
  | cons p rest ih =>
      by_cases hp : p.1 = key
      · simp [mapValues, put, hp]
      · simpa [mapValues, put, hp] using ih

/-! ## No key occurs twice -/

/-- No key occurs twice after storing, if none did before. -/
theorem nodup_keys_put (t : Table α β) (key : α) (v : β) (h : (keys t).Nodup) :
    (keys (put t key v)).Nodup := by
  rw [keys_put]
  split
  · exact h
  · rename_i hk
    refine List.nodup_append.2 ⟨h, by simp, ?_⟩
    intro a ha b hb e
    have : b = key := by simpa using hb
    exact hk (this ▸ e ▸ ha)

end Table
end EventLog

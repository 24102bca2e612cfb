import Mathlib.Data.List.Nodup
import EventLog.Directive

set_option autoImplicit false

/-! # Letters name the directive of their longest alias

The letters behind a percent sign may start with several aliases: `mapped` starts with `m`, the message, and
with `map`, the properties. The longest one is meant, and the letters behind it are left over. `Resolves` says
so without a search, and it holds of just one result.

There are two searches for it. One looks for the letters as a whole in a table with a row of aliases for each
directive; the other goes through all aliases, longer ones first, and takes the first one that the letters
start with. A `Listing` is such a table with such a list. Neither the order of the rows nor that of aliases of
the same length matters, and where both searches find something they find the same (`resolve_longest_alias`).
This holds because no alias belongs to two directives, and because two starts of a text that have the same
length are equal. -/

namespace EventLog.Directive

/-! ## What letters name -/

theorem eq_of_mem_aliases {d d' : Directive} {a : Text} (h : a ∈ d.aliases) (h' : a ∈ d'.aliases) :
    d = d' :=
  congrArg Prod.snd
    (List.inj_on_of_nodup_map nodup_aliases (mem_aliasTable h) (mem_aliasTable h') rfl)

theorem lineFeed_not_mem_alias {d : Directive} {a : Text} (h : a ∈ d.aliases) : '\n' ∉ a :=
  Text.not_mem_of_letters rfl (isLetter_of_mem_aliasTable _ (mem_aliasTable h)).2

/-- Whether the text is an alias. -/
def IsAlias (a : Text) : Prop :=
  ∃ d : Directive, a ∈ d.aliases

/-- Whether `a` is the longest alias that the text starts with. -/
structure IsLongestAlias (t a : Text) : Prop where
  isAlias : IsAlias a
  starts : a <+: t
  longest : ∀ b, IsAlias b → b <+: t → b.length ≤ a.length

theorem IsLongestAlias.eq {t a b : Text} (ha : IsLongestAlias t a) (hb : IsLongestAlias t b) : a = b :=
  (List.prefix_of_prefix_length_le ha.starts hb.starts
    (hb.longest a ha.isAlias ha.starts)).eq_of_length_le (ha.longest b hb.isAlias hb.starts)

theorem isLongestAlias_self {a : Text} (h : IsAlias a) : IsLongestAlias a a :=
  ⟨h, List.prefix_refl a, fun _ _ hb => hb.length_le⟩

/-- What the text names, and what it leaves over: the directive of its longest alias and what follows this
    alias, or nothing at all if it starts with no alias. -/
inductive Resolves (t : Text) : Option Directive × Text → Prop where
  | nothing (h : ∀ a, IsAlias a → ¬ a <+: t) : Resolves t (none, [])
  | start {a left : Text} {d : Directive} (ha : IsLongestAlias t a) (hd : a ∈ d.aliases)
      (ht : a ++ left = t) : Resolves t (some d, left)

theorem Resolves.eq {t : Text} {r r' : Option Directive × Text} (h : Resolves t r) (h' : Resolves t r') :
    r = r' := by
  cases h with
  | nothing h =>
      cases h' with
      | nothing _ => rfl
      | start ha _ _ => exact absurd ha.starts (h _ ha.isAlias)
  | start ha hd ht =>
      cases h' with
      | nothing h => exact absurd ha.starts (h _ ha.isAlias)
      | start ha' hd' ht' =>
          obtain rfl := ha.eq ha'
          obtain rfl := eq_of_mem_aliases hd hd'
          rw [List.append_cancel_left (ht.trans ht'.symm)]

/-- An alias as a whole leaves nothing over. -/
theorem resolves_self {a : Text} {d : Directive} (h : a ∈ d.aliases) : Resolves a (some d, []) :=
  .start (isLongestAlias_self ⟨d, h⟩) h (List.append_nil a)

theorem IsLongestAlias.resolves {t a : Text} {d : Directive} (ha : IsLongestAlias t a)
    (hd : a ∈ d.aliases) : Resolves t (some d, t.drop a.length) :=
  .start ha hd (List.prefix_iff_eq_append.1 ha.starts)

/-! ## Listings -/

/-- The row of each directive: its aliases and the directive. -/
def table : List (List Text × Directive) :=
  all.map fun d => (d.aliases, d)

theorem mem_table (a : Text) (d : Directive) :
    (∃ row ∈ table, a ∈ row.1 ∧ row.2 = d) ↔ a ∈ d.aliases := by
  simp [table, mem_all]

/-- Whether the text is one of these aliases; a line feed at its end is ignored. -/
def spells (aliases : List Text) (t : Text) : Bool :=
  aliases.any fun a => t == a || t == a ++ ['\n']

theorem spells_iff {aliases : List Text} {t : Text} (ht : '\n' ∉ t) :
    spells aliases t = true ↔ t ∈ aliases := by
  have hne : ∀ a : Text, t ≠ a ++ ['\n'] := fun a e => ht (by simp [e])
  simp [spells, hne]

/-- The aliases of all directives, as a table to look them up in and as a list to search. The rows of the
    table stand in any order, and so do the aliases in a row; in the list no alias stands behind a shorter
    one. -/
structure Listing where
  rows : List (List Text × Directive)
  names : List Text
  mem_rows (a : Text) (d : Directive) : (∃ row ∈ rows, a ∈ row.1 ∧ row.2 = d) ↔ a ∈ d.aliases
  mem_names (a : Text) : a ∈ names ↔ IsAlias a
  longestFirst : names.Pairwise fun a b => b.length ≤ a.length

namespace Listing

/-- The rows of the table in any order, and the aliases sorted by length. -/
def ofPerm (rows : List (List Text × Directive)) (h : rows.Perm table) : Listing where
  rows := rows
  names := (rows.flatMap (·.1)).mergeSort fun a b => b.length ≤ a.length
  mem_rows a d := by
    rw [← mem_table]
    simp only [h.mem_iff]
  mem_names a := by
    simp only [List.mem_mergeSort, List.mem_flatMap, h.mem_iff, IsAlias, ← mem_table]
    exact ⟨fun ⟨row, hrow, ha⟩ => ⟨row.2, row, hrow, ha, rfl⟩,
      fun ⟨_, row, hrow, ha, _⟩ => ⟨row, hrow, ha⟩⟩
  longestFirst := by
    have hsorted : ((rows.flatMap (·.1)).mergeSort fun a b => b.length ≤ a.length).Pairwise
        fun a b => decide (b.length ≤ a.length) = true := by
      apply List.pairwise_mergeSort
      · intro a b c hab hbc
        simp only [decide_eq_true_eq] at *
        exact Nat.le_trans hbc hab
      · intro a b
        simp only [Bool.or_eq_true, decide_eq_true_eq]
        exact Nat.le_total b.length a.length
    exact hsorted.imp of_decide_eq_true

/-- The table as it stands, and the aliases sorted by length. -/
def standard : Listing :=
  ofPerm table (.refl table)

variable (l : Listing) {t : Text}

/-- The directive of the first row with this alias. -/
def lookup? (t : Text) : Option Directive :=
  (l.rows.find? fun row => spells row.1 t).map (·.2)

/-- What the first alias that the text starts with names, and what follows it. -/
def resolveStart (t : Text) : Option Directive × Text :=
  match l.names.find? (·.isPrefixOf t) with
  | some a => (l.lookup? a, t.drop a.length)
  | none => (none, [])

/-- What the text names as a whole if it is an alias, else what an alias names that it starts with. -/
def resolve (t : Text) : Option Directive × Text :=
  match l.lookup? t with
  | some d => (some d, [])
  | none => l.resolveStart t

/-- A row that is found is a row of the directive, and no other directive has the alias. -/
theorem lookup?_eq_some_iff (ht : '\n' ∉ t) {d : Directive} : l.lookup? t = some d ↔ t ∈ d.aliases := by
  have hfound : ∀ {d}, l.lookup? t = some d → t ∈ d.aliases := by
    intro d h
    obtain ⟨row, hrow, rfl⟩ := Option.map_eq_some_iff.1 h
    have hspells : spells row.1 t = true := (List.find?_eq_some_iff_append.1 hrow).1
    exact (l.mem_rows t row.2).1
      ⟨row, List.mem_of_find?_eq_some hrow, (spells_iff ht).1 hspells, rfl⟩
  refine ⟨hfound, fun h => ?_⟩
  obtain ⟨row, hrow, ha, -⟩ := (l.mem_rows t d).2 h
  have hsome : (l.lookup? t).isSome := by
    rw [lookup?, Option.isSome_map, List.find?_isSome]
    exact ⟨row, hrow, (spells_iff ht).2 ha⟩
  obtain ⟨d', hd'⟩ := Option.isSome_iff_exists.1 hsome
  rw [hd', eq_of_mem_aliases (hfound hd') h]

/-- The first alias of the list that the text starts with is the longest one. -/
theorem isLongestAlias_of_find? {a : Text} (h : l.names.find? (·.isPrefixOf t) = some a) :
    IsLongestAlias t a := by
  obtain ⟨hstarts, before, after, hsplit, hbefore⟩ := List.find?_eq_some_iff_append.1 h
  have hsorted := l.longestFirst
  rw [hsplit] at hsorted
  have hafter : ∀ b ∈ after, b.length ≤ a.length :=
    (List.pairwise_cons.1 (List.pairwise_append.1 hsorted).2.1).1
  refine ⟨(l.mem_names a).1 (List.mem_of_find?_eq_some h), List.isPrefixOf_iff_prefix.1 hstarts,
    fun b hb hbt => ?_⟩
  have hmem := (l.mem_names b).2 hb
  rw [hsplit, List.mem_append, List.mem_cons] at hmem
  -- in front of the first one that fits there is none that fits, and none behind it is longer
  rcases hmem with hm | rfl | hm
  · have hno := hbefore b hm
    rw [List.isPrefixOf_iff_prefix.2 hbt] at hno
    cases hno
  · exact Nat.le_refl _
  · exact hafter b hm

theorem resolves_resolveStart : Resolves t (l.resolveStart t) := by
  rw [resolveStart]
  cases h : l.names.find? (·.isPrefixOf t) with
  | none =>
      refine .nothing fun a ha hat => List.find?_eq_none.1 h a ((l.mem_names a).2 ha) ?_
      exact List.isPrefixOf_iff_prefix.2 hat
  | some a =>
      have ha := l.isLongestAlias_of_find? h
      obtain ⟨d, hd⟩ := ha.isAlias
      have hlookup := (l.lookup?_eq_some_iff (lineFeed_not_mem_alias hd)).2 hd
      simp only [hlookup]
      exact ha.resolves hd

theorem resolves_resolve (ht : '\n' ∉ t) : Resolves t (l.resolve t) := by
  rw [resolve]
  cases h : l.lookup? t with
  | none => exact l.resolves_resolveStart
  | some d => exact resolves_self ((l.lookup?_eq_some_iff ht).1 h)

end Listing

/-! ## The longest of all that fit -/

variable {t : Text}

theorem lookup?_eq_some_iff (ht : '\n' ∉ t) {d : Directive} : lookup? t = some d ↔ t ∈ d.aliases := by
  have hl : Listing.standard.lookup? t = lookup? t := by
    simp only [Listing.lookup?, Listing.standard, Listing.ofPerm, table, List.find?_map, Option.map_map]
    exact Option.map_id'
  rw [← hl, Listing.lookup?_eq_some_iff _ ht]

theorem longer_bounds (p q : Text × Directive) :
    (longer p q = p ∨ longer p q = q)
      ∧ p.1.length ≤ (longer p q).1.length ∧ q.1.length ≤ (longer p q).1.length := by
  unfold longer
  split
  case isTrue h => exact ⟨.inr rfl, Nat.le_of_lt h, Nat.le_refl _⟩
  case isFalse h => exact ⟨.inl rfl, Nat.le_refl _, Nat.le_of_not_lt h⟩

/-- The longer one of two, taken again and again, is one of all and at least as long as each. -/
theorem foldl_longer (p : Text × Directive) (rest : List (Text × Directive)) :
    rest.foldl longer p ∈ p :: rest
      ∧ ∀ q ∈ p :: rest, q.1.length ≤ (rest.foldl longer p).1.length := by
  induction rest generalizing p with
  | nil => simp
  | cons q rest ih =>
      obtain ⟨hone, hp, hq⟩ := longer_bounds p q
      obtain ⟨hmem, hall⟩ := ih (longer p q)
      obtain ⟨hkept, hrest⟩ := List.forall_mem_cons.1 hall
      rw [List.foldl_cons]
      refine ⟨?_, List.forall_mem_cons.2 ⟨Nat.le_trans hp hkept,
        List.forall_mem_cons.2 ⟨Nat.le_trans hq hkept, hrest⟩⟩⟩
      rcases List.mem_cons.1 hmem with hm | hm
      · rw [hm]
        rcases hone with h | h <;> simp [h]
      · exact List.mem_cons_of_mem p (List.mem_cons_of_mem q hm)

theorem mem_fitting_iff (a : Text) (d : Directive) :
    (a, d) ∈ aliasTable.filter (·.1.isPrefixOf t) ↔ a ∈ d.aliases ∧ a <+: t := by
  rw [List.mem_filter, List.isPrefixOf_iff_prefix]
  exact and_congr_left fun _ => ⟨mem_aliases_of_mem_aliasTable (a, d), mem_aliasTable⟩

theorem not_starts_of_longestAlias?_eq_none (h : longestAlias? t = none) :
    ∀ a, IsAlias a → ¬ a <+: t := by
  rintro a ⟨d, hd⟩ hat
  have hfits := (mem_fitting_iff a d).2 ⟨hd, hat⟩
  unfold longestAlias? at h
  split at h
  case h_1 hnone =>
    rw [hnone] at hfits
    cases hfits
  case h_2 => cases h

theorem isLongestAlias_of_longestAlias? {a : Text} {d : Directive} (h : longestAlias? t = some (a, d)) :
    IsLongestAlias t a ∧ a ∈ d.aliases := by
  unfold longestAlias? at h
  split at h
  case h_1 => cases h
  case h_2 p rest hfits =>
    obtain ⟨hmem, hall⟩ := foldl_longer p rest
    rw [Option.some.inj h, ← hfits] at hmem hall
    obtain ⟨hd, hat⟩ := (mem_fitting_iff a d).1 hmem
    refine ⟨⟨⟨d, hd⟩, hat, ?_⟩, hd⟩
    rintro b ⟨d', hd'⟩ hbt
    exact hall (b, d') ((mem_fitting_iff b d').2 ⟨hd', hbt⟩)

/-- The longest alias that an alias starts with is the alias itself. -/
theorem longestAlias?_self {a : Text} {d : Directive} (h : a ∈ d.aliases) :
    longestAlias? a = some (a, d) := by
  cases hl : longestAlias? a with
  | none => exact absurd (List.prefix_refl a) (not_starts_of_longestAlias?_eq_none hl a ⟨d, h⟩)
  | some p =>
      obtain ⟨b, d'⟩ := p
      obtain ⟨hb, hd'⟩ := isLongestAlias_of_longestAlias? hl
      obtain rfl := hb.eq (isLongestAlias_self ⟨d, h⟩)
      rw [eq_of_mem_aliases hd' h]

theorem resolves_resolve (ht : '\n' ∉ t) : Resolves t (resolve t) := by
  rw [resolve]
  cases h : lookup? t with
  | some d => exact resolves_self ((lookup?_eq_some_iff ht).1 h)
  | none =>
      cases hl : longestAlias? t with
      | none => exact .nothing (not_starts_of_longestAlias?_eq_none hl)
      | some p =>
          obtain ⟨ha, hd⟩ := isLongestAlias_of_longestAlias? hl
          exact ha.resolves hd

/-- What letters name:

    1. It is nothing, and no letters are left over, just if they start with no alias.
    2. Otherwise one of the aliases that they start with is the longest, and one directive has it. This is the
       directive that they name, and the letters behind the alias are left over.
    3. If they are an alias as a whole, their longest alias is that one.
    4. For every listing they name the same, whether they are looked up as a whole first or not. -/
theorem resolve_longest_alias (ht : t.all Text.isLetter = true) :
    (resolve t = (none, []) ↔ ∀ a, IsAlias a → ¬ a <+: t)
      ∧ ((∃ a, IsAlias a ∧ a <+: t) → ∃ a d left,
        (∀ b, IsLongestAlias t b ↔ b = a) ∧ (∀ d' : Directive, a ∈ d'.aliases ↔ d' = d)
          ∧ a ++ left = t ∧ resolve t = (some d, left))
      ∧ (∀ d, lookup? t = some d → longestAlias? t = some (t, d))
      ∧ ∀ l : Listing, l.resolve t = resolve t ∧ l.resolveStart t = resolve t := by
  have hn : '\n' ∉ t := Text.not_mem_of_letters rfl ht
  have hr := resolves_resolve hn
  refine ⟨⟨fun h => ?_, fun h => hr.eq (.nothing h)⟩, ?_, fun d hd => ?_, fun l => ?_⟩
  · rw [h] at hr
    cases hr with
    | nothing h => exact h
  · rintro ⟨b, hb, hbt⟩
    generalize hres : resolve t = r at hr
    cases hr with
    | nothing h => exact absurd hbt (h b hb)
    | @start a left d ha hd hleft =>
        refine ⟨a, d, left, fun c => ⟨fun hc => hc.eq ha, ?_⟩, fun d' => ⟨fun hd' => ?_, ?_⟩, hleft, rfl⟩
        · rintro rfl
          exact ha
        · exact eq_of_mem_aliases hd' hd
        · rintro rfl
          exact hd
  · exact longestAlias?_self ((lookup?_eq_some_iff hn).1 hd)
  · exact ⟨(l.resolves_resolve hn).eq hr, l.resolves_resolveStart.eq hr⟩

/-- `mapped` goes on behind two aliases, and the rows are listed from the last one on; `exception` goes on
    behind `ex` and is an alias itself. -/
theorem resolve_longest_alias_of_two :
    let t : Text := "mapped"
    let u : Text := "exception"
    let l := Listing.ofPerm table.reverse (List.reverse_perm table)
    (t.all Text.isLetter = true ∧ u.all Text.isLetter = true)
      ∧ (("m".toList <+: t ∧ IsAlias "m") ∧ (∀ b, IsLongestAlias t b ↔ b = "map".toList)
        ∧ l.resolve t = (some .properties, ("ped" : Text)))
      ∧ (("ex".toList <+: u ∧ IsAlias "ex") ∧ lookup? u = some .exception
        ∧ longestAlias? u = some (u, .exception) ∧ l.resolveStart u = (some .exception, [])) := by
  intro t u l
  have hletters : t.all Text.isLetter = true ∧ u.all Text.isLetter = true := by decide
  obtain ⟨-, hlongest, -, hlisted⟩ := resolve_longest_alias hletters.1
  obtain ⟨-, -, hwhole, hlisted'⟩ := resolve_longest_alias hletters.2
  have ht : resolve t = (some .properties, ("ped" : Text)) := by decide
  have hm : "m".toList <+: t ∧ IsAlias "m" := ⟨by decide, .message, by decide⟩
  have hu : lookup? u = some .exception ∧ resolve u = (some .exception, []) := by decide
  refine ⟨hletters, ⟨hm, ?_, (hlisted l).1.trans ht⟩, ⟨by decide, .exception, by decide⟩, hu.1,
    hwhole .exception hu.1, (hlisted' l).2.trans hu.2⟩
  obtain ⟨a, d, left, ha, -, hleft, hres⟩ := hlongest ⟨_, hm.2, hm.1⟩
  obtain ⟨-, rfl⟩ := Prod.mk.inj (hres.symm.trans ht)
  have hsplit : t = "map".toList ++ "ped".toList := by decide
  have hmap : a = "map".toList := List.append_cancel_right (hleft.trans hsplit)
  rw [← hmap]
  exact ha

/-- A look-up as a whole ignores a line feed, and this is no letter that could be left over. -/
example : resolve "c\n" = (some .logger, []) ∧ longestAlias? "c\n" = some ("c".toList, .logger) := by
  decide

end EventLog.Directive

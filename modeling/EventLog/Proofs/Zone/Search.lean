import Mathlib.Data.List.Basic
import EventLog.Zone.Abbreviation

set_option autoImplicit false

/-! # Searching for zones in a name

The name of a zone may be any text. Zones are searched for in it from left to right: at each place the
longest recognised name that is a whole word there is found, and the search goes on behind it (`Search`).
`namesFrom` finds just these names (`search_iff`), and what is kept of a name that is found is its
abbreviation: the initials of a long name, and all of any other one (`Abbreviates.filter_isKept`). -/

namespace EventLog

/-- The table of word characters has all digits in it. -/
theorem Text.isWord_of_isDecimalDigit {c : Char} (h : isDecimalDigit c = true) : isWord c = true := by
  have htables : (zeroDigits.all fun z => wordRanges.any fun r => r.1.ble z && (z + 9).ble r.2) = true := by
    decide +kernel
  obtain ⟨z, hz, hc⟩ := List.any_eq_true.1 h
  obtain ⟨r, hr, hrange⟩ := List.any_eq_true.1 (List.all_eq_true.1 htables z hz)
  simp only [Bool.and_eq_true, decide_eq_true_eq, Nat.ble_eq] at hc hrange
  refine List.any_eq_true.2 ⟨r, hr, ?_⟩
  simp only [Bool.and_eq_true, decide_eq_true_eq]
  omega

namespace Zone

open Text (isWord isDecimalDigit)

/-! ## Recognised names -/

/-- An offset is a sign and four digits. -/
def IsOffset (o : Text) : Prop :=
  ∃ sign a b c d, o = [sign, a, b, c, d] ∧ (sign = '-' ∨ sign = '+')
    ∧ ∀ x ∈ [a, b, c, d], isDecimalDigit x = true

/-- What can be shown for a zone: initials for one of the regions, or universal time, with or without an
    offset. -/
inductive IsShort : Text → Prop
  | regional {region variant : Char} (hr : region ∈ "PMCEA".toList) (hv : variant ∈ "SDP".toList) :
      IsShort [region, variant, 'T']
  | universal {name : Text} (hn : name ∈ universalNames) : IsShort name
  | offset {name o : Text} (hn : name ∈ universalNames) (ho : IsOffset o) : IsShort (name ++ o)

/-- `Abbreviates short name` says that a name is recognised, and what is shown for it. -/
inductive Abbreviates : Text → Text → Prop
  | short {t : Text} (h : IsShort t) : Abbreviates t t
  | long {region variant : Text} (hr : region ∈ regions) (hv : variant ∈ variants) :
      Abbreviates (region.take 1 ++ variant.take 1 ++ ['T']) (region ++ ' ' :: (variant ++ " Time"))

theorem mem_shortNames_iff {t : Text} :
    t ∈ shortNames ↔ ∃ region ∈ "PMCEA".toList, ∃ variant ∈ "SDP".toList, [region, variant, 'T'] = t :=
  List.mem_flatMap.trans (exists_congr fun _ => and_congr_right fun _ => List.mem_map)

theorem mem_longNames_iff {t : Text} :
    t ∈ longNames ↔ ∃ region ∈ regions, ∃ variant ∈ variants, region ++ ' ' :: (variant ++ " Time") = t :=
  List.mem_flatMap.trans (exists_congr fun _ => and_congr_right fun _ => List.mem_map)

/-- The recognised names without an offset. -/
def plainNames : List Text :=
  shortNames ++ longNames ++ universalNames

theorem mem_plainNames_of_mem_universalNames {u : Text} (h : u ∈ universalNames) : u ∈ plainNames :=
  List.mem_append_right _ h

theorem exists_abbreviates_iff {name : Text} :
    (∃ short, Abbreviates short name)
      ↔ name ∈ plainNames ∨ ∃ u ∈ universalNames, ∃ o, IsOffset o ∧ u ++ o = name := by
  constructor
  · rintro ⟨short, h⟩
    cases h with
    | long hr hv =>
        exact .inl (List.mem_append_left _ (List.mem_append_right _
          (mem_longNames_iff.2 ⟨_, hr, _, hv, rfl⟩)))
    | short h =>
        cases h with
        | regional hr hv =>
            exact .inl (List.mem_append_left _ (List.mem_append_left _
              (mem_shortNames_iff.2 ⟨_, hr, _, hv, rfl⟩)))
        | universal hn => exact .inl (mem_plainNames_of_mem_universalNames hn)
        | offset hn ho => exact .inr ⟨_, hn, _, ho, rfl⟩
  · rintro (h | ⟨u, hu, o, ho, rfl⟩)
    · rcases List.mem_append.1 h with h | h
      · rcases List.mem_append.1 h with h | h
        · obtain ⟨region, hr, variant, hv, rfl⟩ := mem_shortNames_iff.1 h
          exact ⟨_, .short (.regional hr hv)⟩
        · obtain ⟨region, hr, variant, hv, rfl⟩ := mem_longNames_iff.1 h
          exact ⟨_, .long hr hv⟩
      · exact ⟨_, .short (.universal h)⟩
    · exact ⟨_, .short (.offset hu ho)⟩

/-- The initials of a long name are a short one. -/
theorem Abbreviates.isShort {short name : Text} (h : Abbreviates short name) : IsShort short := by
  cases h with
  | short h => exact h
  | long hr hv =>
      have hinitials : ∀ region ∈ regions, ∀ variant ∈ variants,
          region.take 1 ++ variant.take 1 ++ ['T'] ∈ shortNames := by decide
      obtain ⟨r, hr', v, hv', he⟩ := mem_shortNames_iff.1 (hinitials _ hr _ hv)
      exact he ▸ .regional hr' hv'

/-- What is kept of a recognised name is its abbreviation. -/
theorem Abbreviates.filter_isKept {short name : Text} (h : Abbreviates short name) :
    name.filter isKept = short := by
  have hshort : ∀ t ∈ shortNames ++ universalNames, t.filter isKept = t := by decide +kernel
  have hlong : ∀ region ∈ regions, ∀ variant ∈ variants,
      (region ++ ' ' :: (variant ++ " Time".toList)).filter isKept
        = region.take 1 ++ variant.take 1 ++ ['T'] := by decide +kernel
  cases h with
  | long hr hv => exact hlong _ hr _ hv
  | short h =>
      cases h with
      | regional hr hv =>
          exact hshort _ (List.mem_append_left _ (mem_shortNames_iff.2 ⟨_, hr, _, hv, rfl⟩))
      | universal hn => exact hshort _ (List.mem_append_right _ hn)
      | offset hn ho =>
          obtain ⟨sign, a, b, c, d, rfl, hs, hd⟩ := ho
          rw [List.filter_append, hshort _ (List.mem_append_right _ hn), List.append_cancel_left_eq,
            List.filter_eq_self]
          refine List.forall_mem_cons.2 ⟨?_, fun x hx => by simp [isKept, hd x hx]⟩
          rcases hs with rfl | rfl <;> rfl

/-- The characters with which recognised names begin. -/
def initials : Text := "PMCEAGU"

/-- A recognised name begins with one of the initials and ends with a word character. -/
theorem Abbreviates.ends {short name : Text} (h : Abbreviates short name) :
    name.head?.any initials.contains = true ∧ name.getLast?.any isWord = true := by
  have hplain : ∀ name ∈ plainNames, name ≠ [] ∧ name.head?.any initials.contains = true
      ∧ name.getLast?.any isWord = true := by decide +kernel
  rcases exists_abbreviates_iff.1 ⟨short, h⟩ with hn | ⟨u, hu, o, ho, rfl⟩
  · exact (hplain name hn).2
  · obtain ⟨hne, hhead, -⟩ := hplain u (mem_plainNames_of_mem_universalNames hu)
    obtain ⟨sign, a, b, c, d, rfl, -, hd⟩ := ho
    rw [List.head?_append_of_ne_nil _ hne, List.getLast?_append]
    exact ⟨hhead, Text.isWord_of_isDecimalDigit (hd d (by simp))⟩

theorem Abbreviates.ne_nil {short name : Text} (h : Abbreviates short name) : name ≠ [] := by
  rintro rfl
  cases h.ends.1

/-- No two recognised names without an offset start with each other. -/
theorem eq_of_mem_plainNames {a b t : Text} (ha : a ∈ plainNames) (hb : b ∈ plainNames)
    (hat : a <+: t) (hbt : b <+: t) : a = b := by
  have hall : ∀ a ∈ plainNames, ∀ b ∈ plainNames, a.isPrefixOf b = true → a = b := by decide +kernel
  rcases List.prefix_or_prefix_of_prefix hat hbt with h | h
  · exact hall a ha b hb (List.isPrefixOf_iff_prefix.2 h)
  · exact (hall b hb a ha (List.isPrefixOf_iff_prefix.2 h)).symm

/-! ## Names at the start of a text -/

theorem offsetAt?_eq_some_iff {t o : Text} : offsetAt? t = some o ↔ IsOffset o ∧ o <+: t := by
  constructor
  · intro h
    unfold offsetAt? at h
    split at h
    · rename_i sign a b c d rest
      split at h
      · rename_i hif
        obtain rfl := Option.some.inj h
        rw [Bool.and_eq_true, Bool.or_eq_true, beq_iff_eq, beq_iff_eq, List.all_eq_true] at hif
        exact ⟨⟨sign, a, b, c, d, rfl, hif⟩, ⟨rest, rfl⟩⟩
      · cases h
    · cases h
  · rintro ⟨⟨sign, a, b, c, d, rfl, hs, hd⟩, rest, rfl⟩
    have hif : ((sign == '-' || sign == '+') && [a, b, c, d].all isDecimalDigit) = true := by
      rw [Bool.and_eq_true, Bool.or_eq_true, beq_iff_eq, beq_iff_eq, List.all_eq_true]
      exact ⟨hs, hd⟩
    exact if_pos hif

/-- The names at the start of a text are the recognised names that it starts with. -/
theorem mem_namesAt_iff {name t : Text} :
    name ∈ namesAt t ↔ (∃ short, Abbreviates short name) ∧ name <+: t := by
  rw [exists_abbreviates_iff, namesAt, List.mem_append, List.mem_filter, List.mem_flatMap]
  constructor
  · rintro (⟨hn, hp⟩ | ⟨u, hu, hn⟩)
    · exact ⟨.inl (List.mem_append_left _ hn), List.isPrefixOf_iff_prefix.1 hp⟩
    · obtain ⟨huniversal, hp⟩ := List.mem_filter.1 hu
      obtain ⟨v, rfl⟩ := List.isPrefixOf_iff_prefix.1 hp
      rw [List.drop_left] at hn
      have halone : u ∈ plainNames ∧ u <+: u ++ v :=
        ⟨mem_plainNames_of_mem_universalNames huniversal, List.prefix_append u v⟩
      split at hn
      · rename_i o ho
        rcases List.mem_cons.1 hn with rfl | hn
        · obtain ⟨ho, hov⟩ := offsetAt?_eq_some_iff.1 ho
          exact ⟨.inr ⟨u, huniversal, o, ho, rfl⟩, (List.prefix_append_right_inj u).2 hov⟩
        · obtain rfl := List.mem_singleton.1 hn
          exact ⟨.inl halone.1, halone.2⟩
      · obtain rfl := List.mem_singleton.1 hn
        exact ⟨.inl halone.1, halone.2⟩
  · rintro ⟨hn | ⟨u, hu, o, ho, rfl⟩, hp⟩
    · have hp' := List.isPrefixOf_iff_prefix.2 hp
      rcases List.mem_append.1 hn with hn | hn
      · exact .inl ⟨hn, hp'⟩
      · refine .inr ⟨name, List.mem_filter.2 ⟨hn, hp'⟩, ?_⟩
        split
        · exact List.mem_cons_of_mem _ List.mem_cons_self
        · exact List.mem_cons_self
    · have hup := List.isPrefixOf_iff_prefix.2 ((List.prefix_append u o).trans hp)
      obtain ⟨v, rfl⟩ := hp
      have hoffset : offsetAt? (o ++ v) = some o :=
        offsetAt?_eq_some_iff.2 ⟨ho, List.prefix_append o v⟩
      refine .inr ⟨u, List.mem_filter.2 ⟨hu, hup⟩, ?_⟩
      rw [List.append_assoc, List.drop_left, hoffset]
      exact List.mem_cons_self

/-- The names at the start of a text are listed with the longer ones first. -/
theorem pairwise_namesAt (t : Text) : (namesAt t).Pairwise fun a b => b.length ≤ a.length := by
  have hregional : ∀ {a}, a ∈ (shortNames ++ longNames).filter (·.isPrefixOf t) →
      a ∈ plainNames ∧ a <+: t := fun ha => by
    obtain ⟨ha, hp⟩ := List.mem_filter.1 ha
    exact ⟨List.mem_append_left _ ha, List.isPrefixOf_iff_prefix.1 hp⟩
  have huniversal : ∀ {u}, u ∈ universalNames.filter (·.isPrefixOf t) →
      u ∈ plainNames ∧ u <+: t := fun hu => by
    obtain ⟨hu, hp⟩ := List.mem_filter.1 hu
    exact ⟨mem_plainNames_of_mem_universalNames hu, List.isPrefixOf_iff_prefix.1 hp⟩
  have heq : ∀ {a b}, a ∈ plainNames ∧ a <+: t → b ∈ plainNames ∧ b <+: t → a = b := fun ha hb =>
    eq_of_mem_plainNames ha.1 hb.1 ha.2 hb.2
  -- only one name without an offset is there, so at most it and the same name with an offset are compared
  refine List.pairwise_append.2 ⟨?_, List.pairwise_flatMap.2 ⟨?_, ?_⟩, ?_⟩
  · refine List.pairwise_of_forall_mem_list fun a ha b hb => ?_
    exact Nat.le_of_eq (congrArg List.length (heq (hregional hb) (hregional ha)))
  · intro u hu
    split <;> simp
  · have hdifferent : universalNames.Nodup := by decide
    refine (hdifferent.filter _).imp_of_mem fun ha hb hne => ?_
    exact absurd (heq (huniversal ha) (huniversal hb)) hne
  · have hapart : ∀ u ∈ universalNames, u ∉ shortNames ++ longNames := by decide
    intro a ha b hb
    obtain ⟨u, hu, -⟩ := List.mem_flatMap.1 hb
    obtain rfl := heq (hregional ha) (huniversal hu)
    exact absurd (List.mem_filter.1 ha).1 (hapart a (List.mem_filter.1 hu).1)

/-! ## Whole words -/

/-- Whether a recognised name is a whole word at the start of a text, with the character `before` in front:
    the characters next to it are no word characters. -/
structure StandsAt (before : Option Char) (name t : Text) : Prop where
  recognised : ∃ short, Abbreviates short name
  starts : name <+: t
  opens : ∀ c ∈ before, isWord c = false
  closes : ∀ c ∈ (t.drop name.length).head?, isWord c = false

/-- A recognised name lies between two boundaries just if it is a whole word. -/
theorem isBoundary_iff {before : Option Char} {short name t : Text} (h : Abbreviates short name)
    (hp : name <+: t) :
    (Text.isBoundary before t.head? && Text.isBoundary name.getLast? (t.drop name.length).head?) = true
      ↔ (∀ c ∈ before, isWord c = false) ∧ ∀ c ∈ (t.drop name.length).head?, isWord c = false := by
  obtain ⟨hinitial, hlast⟩ := h.ends
  have hhead : name.head?.any isWord = true := by
    have hwords : initials.all isWord = true := by decide +kernel
    obtain ⟨c, hc, hm⟩ := (Option.any_eq_true _ _).1 hinitial
    exact (Option.any_eq_true _ _).2
      ⟨c, hc, List.all_eq_true.1 hwords c (List.contains_iff_mem.1 hm)⟩
  obtain ⟨u, rfl⟩ := hp
  have hneighbour : ∀ c? : Option Char, (∀ c ∈ c?, isWord c = false) ↔ c?.any isWord = false :=
    fun c? => (Option.any_eq_false isWord c?).symm
  rw [hneighbour, hneighbour, Text.isBoundary, Text.isBoundary, List.head?_append_of_ne_nil _ h.ne_nil,
    hhead, hlast]
  simp

theorem standsAt_iff {before : Option Char} {name t : Text} :
    StandsAt before name t ↔ name ∈ namesAt t
      ∧ (Text.isBoundary before t.head?
        && Text.isBoundary name.getLast? (t.drop name.length).head?) = true := by
  constructor
  · rintro ⟨⟨short, h⟩, hp, ho, hc⟩
    exact ⟨mem_namesAt_iff.2 ⟨⟨short, h⟩, hp⟩, (isBoundary_iff h hp).2 ⟨ho, hc⟩⟩
  · rintro ⟨hn, hb⟩
    obtain ⟨⟨short, h⟩, hp⟩ := mem_namesAt_iff.1 hn
    obtain ⟨ho, hc⟩ := (isBoundary_iff h hp).1 hb
    exact ⟨⟨short, h⟩, hp, ho, hc⟩

/-- The name that is taken is the longest whole word at the start of the text. -/
theorem nameAt?_eq_some_iff {before : Option Char} {name t : Text} :
    nameAt? before t = some name
      ↔ StandsAt before name t ∧ ∀ other, StandsAt before other t → other.length ≤ name.length := by
  have hlongest : ∀ {name}, nameAt? before t = some name →
      StandsAt before name t ∧ ∀ other, StandsAt before other t → other.length ≤ name.length := by
    intro name h
    have hboundary := List.find?_some h
    refine ⟨standsAt_iff.2 ⟨List.mem_of_find?_eq_some h, hboundary⟩, fun other hother => ?_⟩
    obtain ⟨-, first, rest, hnames, hfirst⟩ := List.find?_eq_some_iff_append.1 h
    obtain ⟨hmem, hother⟩ := standsAt_iff.1 hother
    have hsorted := pairwise_namesAt t
    rw [hnames] at hmem hsorted
    rcases List.mem_append.1 hmem with hm | hm
    · have hno := hfirst other hm
      rw [hother] at hno
      cases hno
    · rcases List.mem_cons.1 hm with rfl | hm
      · exact Nat.le_refl _
      · exact List.rel_of_pairwise_cons (List.pairwise_append.1 hsorted).2.1 hm
  refine ⟨hlongest, fun ⟨h, hmax⟩ => ?_⟩
  cases hn : nameAt? before t with
  | none =>
      obtain ⟨hmem, hboundary⟩ := standsAt_iff.1 h
      exact absurd hboundary (List.find?_eq_none.1 hn name hmem)
  | some found =>
      -- both start the text and neither is longer than the other
      obtain ⟨hfound, hmax'⟩ := hlongest hn
      have hlength := Nat.le_antisymm (hmax found hfound) (hmax' name h)
      have hstart := List.prefix_of_prefix_length_le hfound.starts h.starts (Nat.le_of_eq hlength)
      rw [hstart.eq_of_length hlength]

theorem nameAt?_eq_none_iff {before : Option Char} {t : Text} :
    nameAt? before t = none ↔ ∀ name, ¬ StandsAt before name t := by
  rw [nameAt?, List.find?_eq_none]
  constructor
  · intro h name hs
    obtain ⟨hmem, hboundary⟩ := standsAt_iff.1 hs
    exact h name hmem hboundary
  · exact fun h name hmem hboundary => h name (standsAt_iff.2 ⟨hmem, hboundary⟩)

/-! ## The search -/

/-- `Search before t names` says that the names are found in a text, in this order, with the character
    `before` in front of it. -/
inductive Search : Option Char → Text → List Text → Prop
  | nil {before : Option Char} : Search before [] []
  /-- A name is found if it is the longest one in its place; the search goes on behind it. -/
  | found {before : Option Char} {name rest : Text} {names : List Text}
      (h : StandsAt before name (name ++ rest))
      (longest : ∀ other, StandsAt before other (name ++ rest) → other.length ≤ name.length)
      (hs : Search name.getLast? rest names) : Search before (name ++ rest) (name :: names)
  /-- Where there is none, the search goes on with the next character. -/
  | next {before : Option Char} {c : Char} {rest : Text} {names : List Text}
      (h : ∀ name, ¬ StandsAt before name (c :: rest)) (hs : Search (some c) rest names) :
      Search before (c :: rest) names

/-- The characters of a name that is found are skipped. -/
theorem namesFrom_append (c : Char) (s u : Text) :
    namesFrom (some c) s.length (s ++ u) = namesFrom (c :: s).getLast? 0 u := by
  induction s generalizing c with
  | nil => rfl
  | cons d s ih =>
      rw [List.length_cons, List.cons_append, namesFrom, ih, List.getLast?_cons_cons]

theorem namesFrom_of_nameAt? {before : Option Char} {name rest : Text}
    (h : nameAt? before (name ++ rest) = some name) :
    namesFrom before 0 (name ++ rest) = name :: namesFrom name.getLast? 0 rest := by
  obtain ⟨short, hshort⟩ := (nameAt?_eq_some_iff.1 h).1.recognised
  obtain ⟨c, s, rfl⟩ := List.exists_cons_of_ne_nil hshort.ne_nil
  rw [List.cons_append] at h ⊢
  rw [namesFrom, h]
  dsimp only
  rw [List.length_cons, Nat.add_sub_cancel, namesFrom_append]

theorem Search.eq_namesFrom {before : Option Char} {t : Text} {names : List Text}
    (h : Search before t names) : names = namesFrom before 0 t := by
  induction h with
  | nil => rfl
  | found h longest _ ih => rw [namesFrom_of_nameAt? (nameAt?_eq_some_iff.2 ⟨h, longest⟩), ih]
  | next h _ ih => rw [namesFrom, nameAt?_eq_none_iff.2 h, ih]

theorem search_namesFrom (before : Option Char) (t : Text) : Search before t (namesFrom before 0 t) := by
  -- on the length, since a name that is found is left behind as a whole
  induction h : t.length using Nat.strongRecOn generalizing before t with
  | ind n ih =>
      cases t with
      | nil => exact .nil
      | cons c rest =>
          cases hn : nameAt? before (c :: rest) with
          | none =>
              rw [namesFrom, hn]
              exact .next (nameAt?_eq_none_iff.1 hn) (ih rest.length (by simp [← h]) (some c) rest rfl)
          | some name =>
              obtain ⟨hstands, longest⟩ := nameAt?_eq_some_iff.1 hn
              obtain ⟨u, hu⟩ := hstands.starts
              rw [← hu] at hn hstands longest h ⊢
              rw [namesFrom_of_nameAt? hn]
              have hlength : u.length < n := by
                obtain ⟨short, hshort⟩ := hstands.recognised
                have hpos := List.length_pos_iff.2 hshort.ne_nil
                rw [← h, List.length_append]
                omega
              exact .found hstands longest (ih u.length hlength _ u rfl)

/-- In every text there is just one list of names to be found. -/
theorem search_iff {before : Option Char} {t : Text} {names : List Text} :
    Search before t names ↔ names = namesFrom before 0 t :=
  ⟨Search.eq_namesFrom, fun h => h ▸ search_namesFrom before t⟩

/-- What is found is recognised. -/
theorem Search.exists_abbreviates {before : Option Char} {t : Text} {names : List Text}
    (h : Search before t names) : ∀ name ∈ names, ∃ short, Abbreviates short name := by
  induction h with
  | nil => exact fun name hn => nomatch hn
  | found h _ _ ih =>
      intro name hn
      rcases List.mem_cons.1 hn with rfl | hn
      · exact h.recognised
      · exact ih name hn
  | next _ _ ih => exact ih

/-! ## The abbreviation -/

/-- The abbreviation of a name is that of the last zone that is found in it. -/
theorem Search.abbreviation_eq {name short found : Text} {names : List Text}
    (h : Search none name names) (hl : names.getLast? = some found) (hs : Abbreviates short found) :
    abbreviation name = short := by
  rw [h.eq_namesFrom] at hl
  rw [abbreviation, hl]
  exact hs.filter_isKept

theorem Search.abbreviates_getLast {name found : Text} {names : List Text} (h : Search none name names)
    (hl : names.getLast? = some found) : Abbreviates (abbreviation name) found := by
  obtain ⟨short, hs⟩ := h.exists_abbreviates found (List.mem_of_getLast? hl)
  rw [h.abbreviation_eq hl hs]
  exact hs

theorem Search.abbreviation_eq_nil {name : Text} (h : Search none name []) : abbreviation name = [] := by
  rw [abbreviation, ← h.eq_namesFrom]
  rfl

theorem abbreviation_eq_nil_or_isShort (name : Text) :
    abbreviation name = [] ∨ IsShort (abbreviation name) := by
  have h := search_namesFrom none name
  cases hl : (namesFrom none 0 name).getLast? with
  | none =>
      rw [List.getLast?_eq_none_iff.1 hl] at h
      exact .inl h.abbreviation_eq_nil
  | some found => exact .inr (h.abbreviates_getLast hl).isShort

/-- A recognised name on its own is found. -/
theorem Abbreviates.search {short name : Text} (h : Abbreviates short name) : Search none name [name] := by
  have hstands : StandsAt none name (name ++ []) :=
    ⟨⟨short, h⟩, List.prefix_append _ _, fun c hc => (nomatch hc), by rw [List.drop_left]; nofun⟩
  have hfound := Search.found hstands (fun other ho => ?_) .nil
  · rwa [List.append_nil] at hfound
  · rw [List.append_nil] at ho
    exact ho.starts.length_le

theorem Abbreviates.abbreviation_eq {short name : Text} (h : Abbreviates short name) :
    abbreviation name = short :=
  h.search.abbreviation_eq rfl h

end Zone
end EventLog

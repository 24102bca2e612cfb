import EventLog.Text

set_option autoImplicit false

/-! # File paths

A file name is read in a working directory and made absolute: empty parts and parts that stand for the
directory itself are dropped, and a part that stands for the parent takes back the part before it, if
there is one. Two slashes at the start are kept, any other number becomes one. `relativeTo?` cuts the
path of a directory and a slash off the start of the path of a file. -/

namespace EventLog

namespace Path

/-- Whether a part names something in the directory before it, and is no way to stay or to go up. -/
def IsProperPart (part : Text) : Prop :=
  part ≠ [] ∧ part ≠ ['.'] ∧ part ≠ ['.', '.'] ∧ '/' ∉ part

end Path

/-- An absolute path: the number of slashes at its start, and its parts. -/
structure Path where
  slashes : Nat
  parts : List Text
  slashes_pos : 1 ≤ slashes
  slashes_le : slashes ≤ 2
  proper : ∀ part ∈ parts, Path.IsProperPart part
deriving DecidableEq

namespace Path

/-! ## From a text -/

/-- One more part on a path whose parts are given last one first. -/
def enter (done : List Text) (part : Text) : List Text :=
  if part = [] ∨ part = ['.'] then done
  else if part = ['.', '.'] then done.drop 1
  else part :: done

/-- The number of slashes that a path keeps at its start. -/
def leadingSlashes : Text → Nat
  | '/' :: '/' :: '/' :: _ => 1
  | '/' :: '/' :: _ => 2
  | _ => 1

theorem enter_proper {done : List Text} {part : Text} (h : ∀ p ∈ done, IsProperPart p)
    (hp : '/' ∉ part) : ∀ p ∈ enter done part, IsProperPart p := by
  intro p hm
  unfold enter at hm
  split at hm
  · exact h p hm
  · rename_i h1
    split at hm
    · exact h p (List.mem_of_mem_drop hm)
    · rename_i h2
      rcases List.mem_cons.1 hm with rfl | hm
      · exact ⟨fun e => h1 (.inl e), fun e => h1 (.inr e), h2, hp⟩
      · exact h p hm

theorem foldl_enter_proper (parts done : List Text) (h : ∀ p ∈ done, IsProperPart p)
    (hp : ∀ p ∈ parts, '/' ∉ p) : ∀ p ∈ parts.foldl enter done, IsProperPart p := by
  induction parts generalizing done with
  | nil => exact h
  | cons part rest ih =>
      exact ih _ (enter_proper h (hp part List.mem_cons_self))
        fun p hm => hp p (List.mem_cons_of_mem _ hm)

theorem leadingSlashes_bounds (t : Text) : 1 ≤ leadingSlashes t ∧ leadingSlashes t ≤ 2 := by
  unfold leadingSlashes
  split <;> decide

/-- The path that a text stands for, read from the root directory. -/
def ofText (t : Text) : Path where
  slashes := leadingSlashes t
  parts := ((Text.parts '/' t).foldl enter []).reverse
  slashes_pos := (leadingSlashes_bounds t).1
  slashes_le := (leadingSlashes_bounds t).2
  proper := fun part hm =>
    foldl_enter_proper (Text.parts '/' t) [] (by simp) (Text.not_mem_of_mem_parts '/' t) part
      (List.mem_reverse.1 hm)

/-- The text of a file name behind the directory it is read in; a name that starts with a slash does not
    depend on it. -/
def within (directory name : Text) : Text :=
  if name.head? = some '/' then name
  else if directory = [] ∨ directory.getLast? = some '/' then directory ++ name
  else directory ++ '/' :: name

/-- The path of a file name that is read in a directory. -/
def ofName (directory name : Text) : Path :=
  ofText (within directory name)

/-! ## To a text -/

/-- The path as a text. -/
def text (p : Path) : Text :=
  List.replicate p.slashes '/' ++ Text.join ['/'] p.parts

/-- The file name as an absolute path. -/
def absolute (directory name : Text) : Text :=
  (ofName directory name).text

/-! ## Below a directory -/

/-- Whether a path lies below a directory: it has all parts of the directory and at least one more. -/
def IsBelow (p base : Path) : Prop :=
  p.slashes = base.slashes ∧ ∃ part rest, p.parts = base.parts ++ part :: rest

theorem isBelow_iff {p base : Path} :
    p.IsBelow base ↔ p.slashes = base.slashes ∧ base.parts <+: p.parts ∧ p.parts ≠ base.parts := by
  constructor
  · rintro ⟨hs, part, rest, hp⟩
    exact ⟨hs, ⟨part :: rest, hp.symm⟩, by simp [hp]⟩
  · rintro ⟨hs, ⟨others, ho⟩, hne⟩
    have hothers : others ≠ [] := by
      rintro rfl
      exact hne (by simpa using ho.symm)
    obtain ⟨part, rest, rfl⟩ := List.exists_cons_of_ne_nil hothers
    exact ⟨hs, part, rest, ho.symm⟩

instance (p base : Path) : Decidable (p.IsBelow base) :=
  decidable_of_iff _ isBelow_iff.symm

/-- The rest of an absolute path behind that of a directory, if it starts with it and a slash. -/
def relativeTo? (base path : Text) : Option Text :=
  if (base ++ ['/']).isPrefixOf path then some (path.drop (base.length + 1)) else none

/-- The rest is what directory and slash stand in front of. -/
theorem relativeTo?_eq_some_iff {base path rest : Text} :
    relativeTo? base path = some rest ↔ path = base ++ '/' :: rest := by
  unfold relativeTo?
  constructor
  · intro h
    split at h
    · rename_i hp
      obtain ⟨u, rfl⟩ := List.isPrefixOf_iff_prefix.1 hp
      have hu : u = rest := by simpa using h
      rw [hu, List.append_assoc, List.singleton_append]
    · cases h
  · rintro rfl
    have hp : (base ++ ['/']).isPrefixOf (base ++ '/' :: rest) = true :=
      List.isPrefixOf_iff_prefix.2 ⟨rest, by simp⟩
    rw [if_pos hp]
    simp

end Path
end EventLog

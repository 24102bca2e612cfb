import Mathlib.Data.List.Basic
import EventLog.Placeholder

set_option autoImplicit false

/-! # One pass over a message

The placeholders of a message are found before any argument is looked at: the first one, then the first
one behind it, and so on (`Cut`). There is just one way to cut a message like this (`cut_iff`). The
arguments are put in the place of the marks between the pieces, as many as there are, and what an argument
says is never read again. `pass` does the same while it goes over the message once, counting down the
placeholders that it may still fill. The main statement is `substitute_one_pass`. -/

namespace EventLog.Placeholder

theorem mark_prefix_iff {c : Char} {rest : Text} :
    mark <+: c :: rest ↔ ∃ after, c = '\x7b' ∧ rest = '\x7d' :: after := by
  constructor
  · rintro ⟨after, ha⟩
    obtain ⟨hc, hrest⟩ := List.cons.inj ha
    exact ⟨after, hc.symm, hrest.symm⟩
  · rintro ⟨after, rfl, rfl⟩
    exact List.prefix_append mark after

/-! ## Where the placeholders are -/

/-- Whether the placeholder between the two texts is the first one of the message that they make up. -/
def IsFirst (first rest : Text) : Prop :=
  ∀ before after, first ++ mark ++ rest = before ++ mark ++ after → first.length ≤ before.length

/-- How a message is cut: at its first placeholder, and what is behind that in the same way. -/
inductive Cut : Text → Text → List Text → Prop
  | last {t : Text} (h : ¬ mark <:+: t) : Cut t t []
  | next {first rest p : Text} {ps : List Text} (h : IsFirst first rest) (hc : Cut rest p ps) :
      Cut (first ++ mark ++ rest) first (p :: ps)

theorem pieces_mark (rest : Text) :
    pieces (mark ++ rest) = ([], (pieces rest).1 :: (pieces rest).2) := rfl

/-- A character that starts no placeholder belongs to the first piece. -/
theorem pieces_cons {c : Char} {rest : Text} (h : ¬ mark <+: c :: rest) :
    pieces (c :: rest) = (c :: (pieces rest).1, (pieces rest).2) := by
  rw [pieces]
  intro after hc hrest
  exact h (mark_prefix_iff.2 ⟨after, hc, hrest⟩)

theorem pieces_of_not_infix {t : Text} (h : ¬ mark <:+: t) : pieces t = (t, []) := by
  induction t with
  | nil => rfl
  | cons c rest ih =>
      rw [List.infix_cons_iff, not_or] at h
      rw [pieces_cons h.1, ih h.2]

/-- The first placeholder is the first one also without a character in front of it. -/
theorem IsFirst.tail {c : Char} {first rest : Text} (h : IsFirst (c :: first) rest) :
    ¬ mark <+: c :: (first ++ mark ++ rest) ∧ IsFirst first rest := by
  constructor
  · rintro ⟨after, ha⟩
    exact absurd (h [] after ha.symm) (Nat.not_succ_le_zero _)
  · intro before after he
    exact Nat.le_of_succ_le_succ (h (c :: before) after (congrArg (c :: ·) he))

/-- The first placeholder is the first one also behind a character that starts no other one. -/
theorem IsFirst.cons {c : Char} {first rest : Text} (h : IsFirst first rest)
    (hc : ¬ mark <+: c :: (first ++ mark ++ rest)) : IsFirst (c :: first) rest := by
  intro before after he
  cases before with
  | nil => exact absurd ⟨after, he.symm⟩ hc
  | cons d before =>
      obtain ⟨-, he⟩ := List.cons.inj he
      exact Nat.succ_le_succ (h before after he)

theorem pieces_of_isFirst {first rest : Text} (h : IsFirst first rest) :
    pieces (first ++ mark ++ rest) = (first, (pieces rest).1 :: (pieces rest).2) := by
  induction first with
  | nil => exact pieces_mark rest
  | cons c first ih =>
      obtain ⟨hc, hfirst⟩ := h.tail
      show pieces (c :: (first ++ mark ++ rest)) = _
      rw [pieces_cons hc, ih hfirst]

theorem Cut.cons {c : Char} {t first : Text} {ps : List Text} (h : Cut t first ps)
    (hc : ¬ mark <+: c :: t) : Cut (c :: t) (c :: first) ps := by
  cases h with
  | last h => exact .last (by rw [List.infix_cons_iff, not_or]; exact ⟨hc, h⟩)
  | next h hrest => exact .next (h.cons hc) hrest

theorem cut_pieces (t : Text) : Cut t (pieces t).1 (pieces t).2 := by
  fun_induction pieces t with
  | case1 rest ih =>
      have hfirst : IsFirst [] rest := fun before _ _ => Nat.zero_le before.length
      exact .next hfirst ih
  | case2 c rest hc ih =>
      refine ih.cons fun hmark => ?_
      obtain ⟨after, hbrace, hrest⟩ := mark_prefix_iff.1 hmark
      exact hc after hbrace hrest
  | case3 => exact .last (by decide)

/-- There is just one way to cut a message. -/
theorem cut_iff {t first : Text} {ps : List Text} :
    Cut t first ps ↔ pieces t = (first, ps) := by
  constructor
  · intro h
    induction h with
    | last h => exact pieces_of_not_infix h
    | next h _ ih => rw [pieces_of_isFirst h, ih]
  · intro h
    have hc := cut_pieces t
    rw [h] at hc
    exact hc

/-! ## What is put in their place -/

/-- An argument stands in front of each later piece as long as there are any, and a mark after that. -/
theorem fill_fst (ps : List Text) (args : List Value) :
    (fill ps args).1
      = (List.zipWith (fun a p => a.text ++ p) args ps).flatten
        ++ (ps.drop args.length).flatMap (mark ++ ·) := by
  induction ps generalizing args with
  | nil => simp [fill]
  | cons p ps ih =>
      cases args with
      | nil => simp [fill, ih]
      | cons a args => simp [fill, ih]

/-- Arguments without a placeholder are not looked at. -/
theorem fill_take (ps : List Text) (args : List Value) :
    (fill ps (args.take ps.length)).1 = (fill ps args).1 := by
  induction ps generalizing args with
  | nil => rfl
  | cons p ps ih =>
      cases args with
      | nil => rfl
      | cons a args => rw [List.length_cons, List.take_succ_cons, fill, fill, ih]

theorem substitute_mark (rest : Text) (a : Value) (args : List Value) :
    (substitute (mark ++ rest) (a :: args)).1 = a.text ++ (substitute rest args).1 := by
  simp [substitute, pieces_mark, fill]

theorem substitute_cons {c : Char} {rest : Text} (h : ¬ mark <+: c :: rest) (args : List Value) :
    (substitute (c :: rest) args).1 = c :: (substitute rest args).1 := by
  simp [substitute, pieces_cons h]

/-! ## The pass -/

/-- The message with at most `n` of its placeholders replaced, each by the next one of the arguments. -/
def pass : Nat → List Value → Text → Text
  | n + 1, a :: args, '\x7b' :: '\x7d' :: rest => a.text ++ pass n args rest
  | n, args, c :: rest => c :: pass n args rest
  | _, _, [] => []

theorem pass_mark (n : Nat) (a : Value) (args : List Value) (rest : Text) :
    pass (n + 1) (a :: args) (mark ++ rest) = a.text ++ pass n args rest := by
  rw [mark, List.cons_append, List.cons_append, List.nil_append, pass]

theorem pass_cons {c : Char} {rest : Text} (n : Nat) (args : List Value)
    (h : (n = 0 ∨ args = []) ∨ ¬ mark <+: c :: rest) :
    pass n args (c :: rest) = c :: pass n args rest := by
  rw [pass]
  rintro m a args' after rfl rfl hc hrest
  rcases h with (h | h) | h
  · cases h
  · cases h
  · exact h (mark_prefix_iff.2 ⟨after, hc, hrest⟩)

/-- A pass that may fill nothing, or has nothing to fill in, changes nothing. -/
theorem pass_eq_self {n : Nat} {args : List Value} (h : n = 0 ∨ args = []) (t : Text) :
    pass n args t = t := by
  induction t with
  | nil => rw [pass]
  | cons c rest ih => rw [pass_cons n args (.inl h), ih]

/-- A pass puts the arguments that it may use in the place of placeholders. -/
theorem pass_eq (n : Nat) (args : List Value) (message : Text) :
    pass n args message = (substitute message (args.take n)).1 := by
  fun_induction pieces message generalizing n args with
  | case1 rest ih =>
      cases n with
      | zero => rw [pass_eq_self (.inl rfl), List.take_zero, substitute_nil]
      | succ n =>
          cases args with
          | nil => rw [pass_eq_self (.inr rfl), List.take_nil, substitute_nil]
          | cons a args =>
              show pass (n + 1) (a :: args) (mark ++ rest)
                = (substitute (mark ++ rest) ((a :: args).take (n + 1))).1
              rw [pass_mark, List.take_succ_cons, substitute_mark, ih]
  | case2 c rest hc ih =>
      have hmark : ¬ mark <+: c :: rest := by
        rw [mark_prefix_iff]
        rintro ⟨after, hbrace, hrest⟩
        exact hc after hbrace hrest
      rw [pass_cons n args (.inr hmark), substitute_cons hmark, ih]
  | case3 =>
      rw [pass]
      rfl

/-- Every message is cut into pieces in just one way, and `used` arguments, as many as there are
    placeholders or arguments, take part:

    1. The text is the first piece, each of these arguments as text with the next piece behind it, and a
       mark and a piece for each placeholder that is left.
    2. The arguments that are left are those after the first `used` ones, in order.
    3. Going over the message once gives the same text, if the next argument is put in for each placeholder
       that is met until `used` of them are filled; what is put in is not gone over. -/
theorem substitute_one_pass (message : Text) (args : List Value) :
    ∃ first rest, (∀ p ps, Cut message p ps ↔ p = first ∧ ps = rest)
      ∧ let used := min rest.length args.length
        (substitute message args).1
            = first
              ++ (List.zipWith (fun a p => a.text ++ p) (args.take used) (rest.take used)).flatten
              ++ (rest.drop used).flatMap (mark ++ ·)
          ∧ (substitute message args).2 = args.drop used
          ∧ (substitute message args).1 = pass used args message := by
  refine ⟨(pieces message).1, (pieces message).2, fun p ps => ?_, ?_⟩
  · rw [cut_iff, Prod.ext_iff]
    exact and_congr eq_comm eq_comm
  · intro used
    have hused : used = min args.length (pieces message).2.length := Nat.min_comm ..
    refine ⟨?_, ?_, ?_⟩
    · rw [substitute, fill_fst, List.zipWith_eq_zipWith_take_min, List.drop_eq_drop_min, ← hused,
        List.append_assoc]
    · rw [substitute_snd, count, List.drop_eq_drop_min]
    · rw [pass_eq, ← List.take_eq_take_min, substitute, substitute, fill_take]

/-- What arguments say is not looked at for placeholders, even where it completes one. -/
example :
    let message : Text := "a\x7b\x7b\x7d\x7d\x7b\x7d"
    let shown : Text := "a\x7b\x7b\x7d\x7d\x7d"
    substitute message [.str "\x7b\x7d", .str "\x7d", .int 1] = (shown, [.int 1]) := rfl

end EventLog.Placeholder

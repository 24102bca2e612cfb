import EventLog.Value

set_option autoImplicit false

/-! # Placeholders in messages

A pair of braces in a message stands for an argument of the log call. The message is cut at its
placeholders once, from left to right, and the arguments are put between the pieces; so what an
argument says is never looked at for placeholders. A placeholder without an argument stays, and
arguments without a placeholder are handed back. -/

namespace EventLog.Placeholder

/-- The mark that stands for an argument. -/
def mark : Text := ['\x7b', '\x7d']

/-- The part of a message before the first placeholder, and the parts after each placeholder. -/
def pieces : Text → Text × List Text
  | '\x7b' :: '\x7d' :: rest => ([], (pieces rest).1 :: (pieces rest).2)
  | c :: rest => (c :: (pieces rest).1, (pieces rest).2)
  | [] => ([], [])

/-- The later pieces of a message, each behind its argument, and the arguments left over. -/
def fill : List Text → List Value → Text × List Value
  | [], args => ([], args)
  | p :: ps, [] => (mark ++ p ++ (fill ps []).1, [])
  | p :: ps, a :: args => (a.text ++ p ++ (fill ps args).1, (fill ps args).2)

/-- The message with arguments for its placeholders, and the arguments left over. -/
def substitute (message : Text) (args : List Value) : Text × List Value :=
  ((pieces message).1 ++ (fill (pieces message).2 args).1, (fill (pieces message).2 args).2)

/-- The number of placeholders of a message. -/
def count (message : Text) : Nat :=
  (pieces message).2.length

/-- The pieces with the marks between them make up the message. -/
theorem pieces_join (t : Text) : (pieces t).1 ++ (pieces t).2.flatMap (mark ++ ·) = t := by
  fun_induction pieces t with
  | case1 rest ih => simpa [mark] using ih
  | case2 c rest _ ih => simpa using ih
  | case3 => rfl

/-- The arguments left over are those after as many as there are placeholders. -/
theorem fill_snd (ps : List Text) (args : List Value) :
    (fill ps args).2 = args.drop ps.length := by
  induction ps generalizing args with
  | nil => rfl
  | cons p ps ih =>
      cases args with
      | nil => rfl
      | cons a args => simpa [fill] using ih args

theorem substitute_snd (message : Text) (args : List Value) :
    (substitute message args).2 = args.drop (count message) :=
  fill_snd _ _

/-- Without arguments the message stays as it is. -/
theorem substitute_nil (message : Text) : (substitute message []).1 = message := by
  have h : ∀ ps, (fill ps []).1 = ps.flatMap (mark ++ ·) := by
    intro ps
    induction ps with
    | nil => rfl
    | cons p ps ih => simp [fill, ih]
  simp only [substitute, h]
  exact pieces_join message

end EventLog.Placeholder

import EventLog.DatePattern.Field

set_option autoImplicit false

/-! # Date patterns

A pattern is a text in which fields stand among other characters. It is read from left to right: at
each place the field with the longest spelling is taken, else a quoted text, which may hold spellings
of fields, else one character. `pieces` gives this reading and does not look at any date. A date
replaces each field by what it shows, something that is no date replaces it by a question mark, and
neither touches the other pieces.

Six patterns have a name. A pattern that starts with `UTC:` shows a date in universal time; a name is
looked for before this mark is. -/

namespace EventLog.DatePattern

/-! ## Pieces of a pattern -/

/-- A piece of a pattern. -/
inductive Piece where
  | field (f : DateField)
  | text (t : Text)
deriving DecidableEq

namespace Piece

/-- How the piece is written in the pattern. -/
def spelling : Piece → Text
  | field f => f.spelling
  | text t => t

/-- What stands for the piece when a date is shown; without a date a field is a question mark. -/
def shown (r : Option Reading) : Piece → Text
  | field f =>
      match r with
      | some r => f.text r
      | none => "?"
  | text t => t

end Piece

/-- The quoted text at the start of a text, with its quotes. -/
def quotedAt? : Text → Option Text
  | '\x27' :: rest =>
      if '\x27' ∈ rest then some ('\x27' :: (rest.takeWhile (· ≠ '\x27') ++ ['\x27'])) else none
  | _ => none

/-- The piece at the start of a text with the first character `c`. -/
def pieceAt (c : Char) (rest : Text) : Piece :=
  match DateField.atStart? (c :: rest) with
  | some f => .field f
  | none =>
      match quotedAt? (c :: rest) with
      | some t => .text t
      | none => .text [c]

/-- The pieces after the next `skip` characters, which belong to a piece already taken. -/
def piecesFrom : Nat → Text → List Piece
  | _, [] => []
  | skip + 1, _ :: rest => piecesFrom skip rest
  | 0, c :: rest =>
      let piece := pieceAt c rest
      piece :: piecesFrom (piece.spelling.length - 1) rest

/-- The pieces of a pattern. -/
def pieces (pattern : Text) : List Piece :=
  piecesFrom 0 pattern

theorem piecesFrom_eq_drop (skip : Nat) (t : Text) : piecesFrom skip t = pieces (t.drop skip) := by
  induction t generalizing skip with
  | nil => cases skip <;> simp [piecesFrom, pieces]
  | cons c rest ih =>
      cases skip with
      | zero => rfl
      | succ n => simpa [piecesFrom] using ih n

theorem quotedAt?_isPrefix {t q : Text} (h : quotedAt? t = some q) : q <+: t ∧ q ≠ [] := by
  unfold quotedAt? at h
  split at h
  · rename_i rest
    split at h
    · rename_i mem
      obtain ⟨u, hu⟩ := Text.exists_eq_takeWhile_append '\x27' rest mem
      simp only [Option.some.injEq] at h
      subst h
      refine ⟨⟨u, ?_⟩, by simp⟩
      simpa using hu.symm
    · simp at h
  · simp at h

/-- A piece is a part of the pattern and not empty. -/
theorem pieceAt_isPrefix (c : Char) (rest : Text) :
    (pieceAt c rest).spelling <+: c :: rest ∧ (pieceAt c rest).spelling ≠ [] := by
  unfold pieceAt
  split
  · rename_i f h
    have hp := List.find?_some h
    exact ⟨List.isPrefixOf_iff_prefix.1 hp, f.spelling_ne_nil⟩
  · split
    · rename_i t h
      exact quotedAt?_isPrefix h
    · exact ⟨⟨rest, rfl⟩, by simp [Piece.spelling]⟩

/-! ## Named patterns and universal time -/

/-- The patterns that have a name. -/
def named : List (Text × Text) :=
  [("DEFAULT", "yyyy-MM-dd HH:mm:ss,S"),
    ("ABSOLUTE", "HH:MM:ss,S"),
    ("COMPACT", "yyyyMMddHHmmssS"),
    ("DATE", "dd MMM yyyy HH:mm:ss,S"),
    ("ISO8601", "yyyy-MM-ddTHH:mm:ss,S"),
    ("ISO8601_BASIC", "yyyyMMddTHHmmss,S")]

/-- The pattern that is used when none is given. -/
def default : Text :=
  "yyyy-MM-dd HH:mm:ss,S"

/-- The pattern that a name stands for; no text and the empty text stand for the default. -/
def resolve : Option Text → Text
  | none | some [] => default
  | some (c :: rest) => (named.lookup (c :: rest)).getD (c :: rest)

/-- The mark of a pattern that shows a date in universal time. -/
def universalMark : Text := "UTC:"

/-- How a pattern reads the clock, and the pattern without the mark for it. -/
def mode (pattern : Text) : ClockMode × Text :=
  if universalMark.isPrefixOf pattern then (.universal, pattern.drop universalMark.length)
  else (.own, pattern)

/-! ## Showing a date -/

/-- The pieces of a pattern with what stands for them. -/
def render (r : Option Reading) (pattern : Text) : Text :=
  (pieces pattern).flatMap (Piece.shown r)

/-- A timestamp shown by a pattern, which may be a name or missing. -/
def format (zone : LocalZone) (t : Timestamp) (pattern : Option Text) : Text :=
  let (mode, body) := mode (resolve pattern)
  render (t.read? mode zone) body

end EventLog.DatePattern

import EventLog.Text

set_option autoImplicit false

/-! # Places in a document

A cursor is a place in the text of a document with its line and column. Block style goes by columns:
the entries of a mapping or list stand in one column, and what belongs to an entry stands further
right. A line ends with a line feed or with one of three other characters. -/

namespace EventLog.Host.Yaml

/-! ## Ends of lines and words -/

/-- Whether the character ends a line. -/
def isBreak (c : Char) : Bool :=
  c == '\n' || c == '\x85' || c == '\u2028' || c == '\u2029'

/-- What the end of a line stands for in a scalar: the line and paragraph separators stand for
    themselves, the other ends for a line feed. -/
def breakText (c : Char) : Text :=
  if c == '\u2028' || c == '\u2029' then [c] else ['\n']

/-- Whether a character ends a word: a blank, a tab, the end of a line, or the end of the text. -/
def isGap : Option Char → Bool
  | none => true
  | some c => c == ' ' || c == '\t' || isBreak c

/-- The marks at the start and at the end of a document. -/
def documentMarks : List Text :=
  ["---", "..."]

/-- Whether the text starts with a mark between documents. -/
def startsMark (t : Text) : Bool :=
  documentMarks.any (·.isPrefixOf t) && isGap (t.drop 3).head?

/-- What the end of a line and the ends of empty lines after it stand for in a scalar: a blank, if
    they are one line feed; else a first line feed does not count. -/
def folded (first : Char) (more : Text) : Text :=
  if breakText first ≠ ['\n'] then first :: more
  else if more.isEmpty then [' ']
  else more

/-! ## Places -/

/-- A place in a text: what follows, the number of characters before it, and line and column, all
    counted from zero. -/
structure Cursor where
  rest : Text
  index : Nat
  line : Nat
  column : Nat

namespace Cursor

/-- The character at the place. -/
def head? (c : Cursor) : Option Char :=
  c.rest.head?

/-- The character after the one at the place. -/
def second? (c : Cursor) : Option Char :=
  (c.rest.drop 1).head?

/-- The mark of an encoding, which takes no column. -/
def encodingMark : Char := '\uFEFF'

/-- The next place. -/
def next (c : Cursor) : Cursor :=
  match c.rest with
  | [] => c
  | d :: t =>
      if isBreak d then ⟨t, c.index + 1, c.line + 1, 0⟩
      else ⟨t, c.index + 1, c.line, if d = encodingMark then c.column else c.column + 1⟩

/-- The place so many characters further on. -/
def skip (c : Cursor) : Nat → Cursor
  | 0 => c
  | n + 1 => skip c.next n

/-- The first place of a text, behind the mark of its encoding. -/
def start (t : Text) : Cursor :=
  let c : Cursor := ⟨t, 0, 0, 0⟩
  if c.head? = some encodingMark then c.next else c

/-- The number of characters before the next token: blanks, ends of lines and comments. Inside a
    comment only the end of a line counts. -/
def gapLength (inComment : Bool) : Text → Nat
  | [] => 0
  | d :: t =>
      if isBreak d then gapLength false t + 1
      else if inComment || d == ' ' then gapLength inComment t + 1
      else if d = '#' then gapLength true t + 1
      else 0

/-- The place of the next token. -/
def toToken (c : Cursor) : Cursor :=
  c.skip (gapLength false c.rest)

/-- The place behind a run of blanks. -/
def skipBlanks (c : Cursor) : Cursor :=
  c.skip (c.rest.takeWhile (· = ' ')).length

/-- Whether this mark between documents stands at the place. -/
def isMarked (c : Cursor) (mark : Text) : Bool :=
  c.column == 0 && mark.isPrefixOf c.rest && isGap (c.rest.drop 3).head?

end Cursor
end EventLog.Host.Yaml

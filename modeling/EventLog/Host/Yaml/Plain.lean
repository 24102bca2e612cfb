import EventLog.Host.Yaml.Cursor

set_option autoImplicit false

/-! # Plain scalars

A plain scalar has no quotes, so it ends where something else begins: at a colon in front of a gap, at
a comment, at a tab, and between braces and brackets at one of their marks. It consists of runs of
other characters with blanks between them, and may go on in lines that stand far enough to the right;
between braces and brackets any line will do. -/

namespace EventLog.Host.Yaml

/-- The marks of braces and brackets that end a key. -/
def flowMarks : List Char :=
  [',', '[', ']', '\x7b', '\x7d']

/-- Characters with which no plain scalar starts, except that some may in front of others. -/
def plainForbidden : List Char :=
  ['-', '?', ':', ',', '[', ']', '\x7b', '\x7d', '#', '&', '*', '!', '|', '>', '\x27', '"', '%', '@',
    '\x60']

/-- Whether a plain scalar can start with the first of two characters. -/
def startsPlain (inFlow : Bool) (c : Char) (next : Option Char) : Bool :=
  !(isGap (some c) || plainForbidden.contains c)
    || (!isGap next && (c == '-' || (!inFlow && (c == '?' || c == ':'))))

/-- Whether a plain scalar ends in front of a character, from the one after it. -/
def endsPlain (inFlow : Bool) (c : Char) (next : Option Char) : Bool :=
  isGap (some c)
    || (c == ':' && (isGap next || (inFlow && next.any flowMarks.contains)))
    || (inFlow && (c == '?' || flowMarks.contains c))

/-- The length of the run of a plain scalar at the start of a text. -/
def runLength (inFlow : Bool) : Text → Nat
  | [] => 0
  | c :: t => if endsPlain inFlow c t.head? then 0 else runLength inFlow t + 1

/-- The blanks and empty lines at the start of a line: how many characters they have, and what the ends
    of the empty lines stand for. Nothing follows if a mark between documents starts a line. -/
def plainGap : Text → Nat × Option Text
  | [] => (0, some [])
  | c :: t =>
      if isBreak c then
        if startsMark t then (1, none)
        else
          let (n, more) := plainGap t
          (n + 1, more.map (breakText c ++ ·))
      else if c = ' ' then
        let (n, more) := plainGap t
        (n + 1, more)
      else (0, some [])

/-- What the white space behind a run stands for, which is empty if the scalar ends here, and the
    place behind it. -/
def afterRun (c : Cursor) : Text × Cursor :=
  let c' := c.skipBlanks
  match c'.rest with
  | d :: t =>
      if isBreak d then
        if startsMark t then ([], c'.next)
        else
          match plainGap t with
          | (n, some more) => (folded d more, c'.skip (n + 1))
          | (n, none) => ([], c'.skip (n + 1))
      else (c.rest.takeWhile (· = ' '), c')
  | [] => (c.rest.takeWhile (· = ' '), c')

/-- A plain scalar from a run on: its text, whether the end of a line was passed behind its last run,
    and the place behind it. Later lines stand at least at column `least`. -/
def plainFrom (inFlow : Bool) (least : Nat) : Nat → Cursor → Text × Bool × Cursor
  | 0, c => ([], false, c)
  | fuel + 1, c =>
      let n := runLength inFlow c.rest
      let run := c.rest.take n
      let behind := c.skip n
      let (gap, c') := afterRun behind
      let crossed := c'.line != behind.line
      if gap.isEmpty || c'.head? == some '#' || (!inFlow && c'.column < least)
          || runLength inFlow c'.rest == 0 then
        (run, crossed, c')
      else
        let (more, crossed, last) := plainFrom inFlow least fuel c'
        (run ++ gap ++ more, crossed, last)

/-- The plain scalar at a place. -/
def plain (inFlow : Bool) (least : Nat) (c : Cursor) : Text × Bool × Cursor :=
  plainFrom inFlow least (c.rest.length + 1) c

end EventLog.Host.Yaml

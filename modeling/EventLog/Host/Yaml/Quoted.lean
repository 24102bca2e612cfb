import EventLog.Host.Yaml.Cursor
import EventLog.Host.Yaml.Number

set_option autoImplicit false

/-! # Quoted scalars

Between single quotes every character stands for itself, and a quote is written twice. Between double
quotes a backslash introduces a character by a letter or by its number, and takes away the end of a
line. A scalar may go on in the next lines: the white space around the end of a line is folded. -/

namespace EventLog.Host.Yaml

/-- Whether the character opens a quoted scalar. -/
def isQuote (c : Char) : Bool :=
  c == '"' || c == '\x27'

/-! ## Escapes -/

/-- The characters that a letter stands for behind a backslash. -/
def escapes : List (Char × Nat) :=
  [('0', 0), ('a', 7), ('b', 8), ('t', 9), ('\t', 9), ('n', 10), ('v', 11), ('f', 12), ('r', 13),
    ('e', 27), (' ', 32), ('"', 34), ('\\', 92), ('/', 47), ('N', 0x85), ('_', 0xA0), ('L', 0x2028),
    ('P', 0x2029)]

/-- The numbers of digits behind the letters that introduce a character by its number. -/
def escapeWidths : List (Char × Nat) :=
  [('x', 2), ('u', 4), ('U', 8)]

/-- The number that the first `width` characters of a text stand for, if they are hexadecimal digits. -/
def hex? (width : Nat) (t : Text) : Option Nat :=
  let digits := t.take width
  if digits.length = width ∧ digits.all Number.isHexDigit then some (Number.inBase 16 digits) else none

/-- The character with this number. -/
def charOf (n : Nat) : Except Flaw Char :=
  if n < 0x110000 then .ok (Char.ofNat n) else .error (.noSuchCharacter (Nat.pow 2 31 ≤ n))

/-! ## Lines -/

/-- The white space at the start of a line, with empty lines: how many characters it has, and what
    the ends of the empty lines stand for. There is none if a mark between documents starts a line. -/
def quotedGap (lineStart : Bool) (t : Text) : Option (Nat × Text) :=
  if lineStart && startsMark t then none
  else match t with
    | [] => some (0, [])
    | d :: rest =>
        if isBreak d then (quotedGap true rest).map fun (n, u) => (n + 1, breakText d ++ u)
        else if d = ' ' ∨ d = '\t' then (quotedGap false rest).map fun (n, u) => (n + 1, u)
        else some (0, [])

/-- The rest of a quoted scalar; `read` holds its characters so far, last one first. -/
def quotedFrom (q : Char) : Nat → Text → Cursor → Except Flaw (Text × Cursor)
  | 0, _, _ => .error .malformed
  | fuel + 1, read, c =>
      match c.rest with
      | [] => .error .malformed
      | d :: t =>
          if d = q then
            if q = '\x27' ∧ t.head? = some '\x27' then quotedFrom q fuel ('\x27' :: read) (c.skip 2)
            else .ok (read.reverse, c.next)
          else if isBreak d then
            match quotedGap true t with
            | none => .error .malformed
            | some (n, more) =>
                quotedFrom q fuel ((folded d more).reverse ++ read) (c.skip (n + 1))
          else if d = ' ' ∨ d = '\t' then
            let space := c.rest.takeWhile fun e => e = ' ' ∨ e = '\t'
            let c' := c.skip space.length
            if c'.head?.any isBreak then quotedFrom q fuel read c'
            else quotedFrom q fuel (space.reverse ++ read) c'
          else if d = '\\' ∧ q = '"' then
            match t with
            | [] => .error .malformed
            | e :: t' =>
                if isBreak e then
                  match quotedGap true t' with
                  | none => .error .malformed
                  | some (n, more) => quotedFrom q fuel (more.reverse ++ read) (c.skip (n + 2))
                else
                  match escapes.lookup e, escapeWidths.lookup e with
                  | some n, _ => quotedFrom q fuel (Char.ofNat n :: read) (c.skip 2)
                  | none, some width =>
                      match hex? width t' with
                      | none => .error .malformed
                      | some n =>
                          match charOf n with
                          | .error f => .error f
                          | .ok e' => quotedFrom q fuel (e' :: read) (c.skip (2 + width))
                  | none, none => .error .malformed
          else quotedFrom q fuel (d :: read) c.next

/-- The quoted scalar that starts with the quote at a place, and the place behind it. -/
def quoted (q : Char) (c : Cursor) : Except Flaw (Text × Cursor) :=
  quotedFrom q c.rest.length [] c.next

end EventLog.Host.Yaml

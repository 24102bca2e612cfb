import EventLog.Host.Yaml.Plain
import EventLog.Host.Yaml.Quoted

set_option autoImplicit false

/-! # Tokens of a document

The text of a document is first cut into tokens. Besides the marks and scalars that are written there
are tokens for what the columns say: where a list or mapping in block style starts and ends, and where
a key starts. A key is known only by the colon behind it, so every scalar and every bracket that may
start a key is remembered until its line is over or it is too far behind; the token for the key is then
put in front of it.

Where the text is no document the tokens end with the flaw. It is found by reading ahead of a possible
key, so the tokens from the first possible key on are not delivered then. -/

namespace EventLog.Host.Yaml

/-- A token of a document. -/
inductive Token where
  | scalar (t : Text) (isPlain : Bool)
  | openList | closeList | openMap | closeMap | comma
  /-- The start of a list in block style. -/
  | blockList
  /-- The start of a mapping in block style. -/
  | blockMap
  | blockEnd
  /-- The start of an item of a list in block style. -/
  | dash
  /-- The start of a key. -/
  | key
  /-- The start of the value of an entry. -/
  | colon
  | documentStart | documentEnd
  /-- A line for the reader of the document, perhaps with the version of the language. -/
  | directive (version : Option Nat)
  | finish
  | flaw (f : Flaw)
deriving DecidableEq

/-- What may turn out to be a key: the number of tokens before it, where it starts, and whether
    nothing else can stand there. -/
structure PossibleKey where
  before : Nat
  index : Nat
  line : Nat
  column : Nat
  required : Bool

namespace PossibleKey

/-- The greatest length of a key. -/
def maxLength : Nat := 1024

/-- Whether a colon at the place is too late to make it a key. -/
def isStale (k : PossibleKey) (c : Cursor) : Bool :=
  k.line != c.line || k.index + maxLength < c.index

end PossibleKey

/-- How far the text is cut into tokens. -/
structure Scanner where
  cursor : Cursor
  /-- The tokens so far, last one first. -/
  read : List Token
  /-- The columns of the open lists and mappings in block style, innermost first. -/
  columns : List Nat
  /-- What may be a key inside the innermost braces or brackets. -/
  possible : Option PossibleKey
  /-- What may be a key outside of them, level by level, innermost first. -/
  outer : List (Option PossibleKey)
  /-- Whether a key may start at the place. -/
  keyAllowed : Bool

namespace Scanner

/-- The scanner at the start of a text. -/
def start (t : Text) : Scanner where
  cursor := .start t
  read := []
  columns := []
  possible := none
  outer := []
  keyAllowed := true

/-- Whether the place is between braces or brackets. -/
def inFlow (s : Scanner) : Bool :=
  !s.outer.isEmpty

/-- The scanner at another place, after one more token. -/
def push (s : Scanner) (t : Token) (c : Cursor) : Scanner :=
  { s with read := t :: s.read, cursor := c }

/-- Puts a token in front of those after the first `before`. -/
def insertAt (s : Scanner) (before : Nat) (t : Token) : Scanner :=
  let later := s.read.length - before
  { s with read := s.read.take later ++ t :: s.read.drop later }

/-- The number of tokens that are known for certain: those before the first possible key. -/
def delivered (s : Scanner) : Nat :=
  (s.outer ++ [s.possible]).foldr (fun k n => k.elim n fun k => min k.before n) s.read.length

/-! ## Possible keys -/

/-- Forgets the possible key of this level; one that had to be a key is a flaw. -/
def dropKey (s : Scanner) : Except Flaw Scanner :=
  if s.possible.any (·.required) then .error .malformed else .ok { s with possible := none }

/-- Forgets the possible keys for which a colon would be too late. -/
def dropStale (s : Scanner) : Except Flaw Scanner :=
  let isStale (k : PossibleKey) : Bool := k.isStale s.cursor
  if (s.possible :: s.outer).any fun k => k.any fun k => k.required && isStale k then
    .error .malformed
  else
    .ok { s with possible := s.possible.filter (!isStale ·),
                 outer := s.outer.map fun k => k.filter (!isStale ·) }

/-- Remembers what starts at the place as a possible key. It has to be a key if an entry of a mapping
    in block style is due. -/
def saveKey (s : Scanner) : Except Flaw Scanner := do
  if s.keyAllowed then
    let s ← s.dropKey
    .ok { s with
      possible := some
        { before := s.read.length, index := s.cursor.index, line := s.cursor.line,
          column := s.cursor.column,
          required := !s.inFlow && s.columns.head? == some s.cursor.column } }
  else .ok s

/-! ## Lists and mappings in block style -/

/-- Ends the lists and mappings in block style that stand at column `least` or further right. -/
def closeFrom (s : Scanner) (least : Nat) : Scanner :=
  if s.inFlow then s
  else
    let ended := s.columns.takeWhile (least ≤ ·)
    { s with columns := s.columns.drop ended.length,
             read := List.replicate ended.length .blockEnd ++ s.read }

/-- Starts a list or mapping in block style at a column, unless the innermost one stands there. -/
def openAt (s : Scanner) (column before : Nat) (t : Token) : Scanner :=
  if s.columns.head?.all (· < column) then
    { s.insertAt before t with columns := column :: s.columns }
  else s

/-! ## Tokens -/

/-- A mark between documents. -/
def documentMark (s : Scanner) (t : Token) : Except Flaw Scanner := do
  let s ← (s.closeFrom 0).dropKey
  .ok { s.push t (s.cursor.skip 3) with keyAllowed := false }

/-- An opening brace or bracket. -/
def openFlow (s : Scanner) (t : Token) : Except Flaw Scanner := do
  let s ← s.saveKey
  .ok { s.push t s.cursor.next with
    possible := none, outer := s.possible :: s.outer, keyAllowed := true }

/-- A closing brace or bracket. -/
def closeFlow (s : Scanner) (t : Token) : Except Flaw Scanner := do
  let s ← s.dropKey
  .ok { s.push t s.cursor.next with
    possible := s.outer.headD none, outer := s.outer.tail, keyAllowed := false }

/-- A comma between braces or brackets. -/
def comma (s : Scanner) : Except Flaw Scanner := do
  let s ← s.dropKey
  .ok { s.push .comma s.cursor.next with keyAllowed := true }

/-- A dash in front of an item. -/
def dash (s : Scanner) : Except Flaw Scanner := do
  if !s.inFlow && !s.keyAllowed then .error .malformed
  else
    let s := if s.inFlow then s else s.openAt s.cursor.column s.read.length .blockList
    let s ← s.dropKey
    .ok { s.push .dash s.cursor.next with keyAllowed := true }

/-- A question mark in front of a key. -/
def question (s : Scanner) : Except Flaw Scanner := do
  if !s.inFlow && !s.keyAllowed then .error .malformed
  else
    let s := if s.inFlow then s else s.openAt s.cursor.column s.read.length .blockMap
    let s ← s.dropKey
    .ok { s.push .key s.cursor.next with keyAllowed := !s.inFlow }

/-- A colon in front of a value. The possible key, if there is one, is a key now. -/
def colon (s : Scanner) : Except Flaw Scanner :=
  match s.possible with
  | some k =>
      let s := s.insertAt k.before .key
      let s := if s.inFlow then s else s.openAt k.column k.before .blockMap
      .ok { s.push .colon s.cursor.next with possible := none, keyAllowed := false }
  | none =>
      if !s.inFlow && !s.keyAllowed then .error .malformed
      else
        let s := if s.inFlow then s else s.openAt s.cursor.column s.read.length .blockMap
        .ok { s.push .colon s.cursor.next with keyAllowed := !s.inFlow }

/-- A quoted scalar. -/
def quotedScalar (s : Scanner) (q : Char) : Except Flaw Scanner := do
  let s ← s.saveKey
  let (t, c) ← quoted q s.cursor
  .ok { s.push (.scalar t false) c with keyAllowed := false }

/-- A plain scalar. A key may follow it if the end of its line was passed. -/
def plainScalar (s : Scanner) : Except Flaw Scanner := do
  let s ← s.saveKey
  let (t, crossed, c) := plain s.inFlow (s.columns.head?.elim 0 (· + 1)) s.cursor
  .ok { s.push (.scalar t true) c with keyAllowed := crossed }

/-- Whether the character can stand in the name of a directive. -/
def isNameChar (c : Char) : Bool :=
  Text.isLetter c || c.isDigit || c == '-' || c == '_'

/-- The version of the language behind blanks: two numerals with a point between them. -/
def version? (t : Text) : Option (Nat × Text) :=
  let t := t.dropWhile (· = ' ')
  let major := t.takeWhile Char.isDigit
  match t.dropWhile Char.isDigit with
  | '.' :: t =>
      if major.isEmpty || (t.takeWhile Char.isDigit).isEmpty then none
      else some (major.foldl (fun n d => n * 10 + (d.toNat - 48)) 0, t.dropWhile Char.isDigit)
  | _ => none

/-- The version that a directive gives and what follows it on its line; only a directive for the
    version is looked into. -/
def directive? (t : Text) : Option (Option Nat × Text) :=
  let name := t.takeWhile isNameChar
  let rest := t.dropWhile isNameChar
  let isEnded (t : Text) : Bool := t.head?.all fun c => c == ' ' || isBreak c
  if name.isEmpty || !isEnded rest then none
  else if name = "YAML" then
    match version? rest with
    | some (major, rest) => if isEnded rest then some (some major, rest) else none
    | none => none
  else some (none, rest.dropWhile (!isBreak ·))

/-- A line that starts with a percent sign. Only a comment may follow the directive. -/
def directive (s : Scanner) : Except Flaw Scanner := do
  let s ← (s.closeFrom 0).dropKey
  match directive? (s.cursor.rest.drop 1) with
  | none => .error .malformed
  | some (version, rest) =>
      let tail := rest.dropWhile (· = ' ')
      if tail.head?.all fun c => c == '#' || isBreak c then
        let line := s.cursor.rest.takeWhile (!isBreak ·)
        .ok { s.push (.directive version) (s.cursor.skip (line.length + 1)) with keyAllowed := false }
      else .error .malformed

/-- The end of the text. -/
def finish (s : Scanner) : Except Flaw Scanner := do
  let s ← (s.closeFrom 0).dropKey
  .ok { s.push .finish s.cursor with keyAllowed := false }

/-- The token that starts with the character at the place. -/
def tokenAt (s : Scanner) (d : Char) : Except Flaw Scanner :=
  let c := s.cursor
  if d = '%' ∧ c.column = 0 then s.directive
  else if c.isMarked "---" then s.documentMark .documentStart
  else if c.isMarked "..." then s.documentMark .documentEnd
  else if d = '[' then s.openFlow .openList
  else if d = '\x7b' then s.openFlow .openMap
  else if d = ']' then s.closeFlow .closeList
  else if d = '\x7d' then s.closeFlow .closeMap
  else if d = ',' then s.comma
  else if d = '-' ∧ isGap c.second? then s.dash
  else if d = '?' ∧ (s.inFlow ∨ isGap c.second?) then s.question
  else if d = ':' ∧ (s.inFlow ∨ isGap c.second?) then s.colon
  else if isQuote d then s.quotedScalar d
  else if startsPlain s.inFlow d c.second? then s.plainScalar
  else .error .malformed

/-- Goes to the next token and reads it. Where blocks allow it, a key may start in a new line. -/
def step (s : Scanner) : Except Flaw Scanner := do
  let c := s.cursor.toToken
  let keyAllowed := s.keyAllowed || (!s.inFlow && c.line != s.cursor.line)
  let s ← { s with cursor := c, keyAllowed := keyAllowed }.dropStale
  let s := s.closeFrom (c.column + 1)
  match c.head? with
  | none => s.finish
  | some d => s.tokenAt d

/-- The tokens so far and those to come. -/
def run : Nat → Scanner → List Token
  | 0, s => s.read.reverse
  | fuel + 1, s =>
      match s.read with
      | .finish :: _ => s.read.reverse
      | _ =>
          match s.dropStale with
          | .error f => s.read.reverse ++ [.flaw f]
          | .ok s =>
              match s.step with
              | .ok s' => run fuel s'
              | .error f => s.read.reverse.take s.delivered ++ [.flaw f]

end Scanner

/-- The tokens of a text. Every token but the last one is at least one character long, which bounds
    the number of steps. -/
def tokens (t : Text) : List Token :=
  Scanner.run (t.length + 2) (.start t)

end EventLog.Host.Yaml

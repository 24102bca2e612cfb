import EventLog.Calendar.Written
import EventLog.Double.Shortest
import EventLog.Exception
import EventLog.Text.Quoted
import EventLog.Text.Decimal

set_option autoImplicit false

/-! # Values of log calls and configurations

Arguments of a log call, properties of an event and the settings of a configuration are values whose
kind is known only when they arrive. A value is shown in two ways: as plain text, in a message, and
as an expression, inside a list or a mapping, where texts are quoted. A thing of a kind of its own is
known by what it shows of itself.

A mapping keeps the order in which its keys were first written. Keys that are numbers are compared as
numbers, where the truth values count as the numbers 1 and 0, and clocks of known offsets by their
instants. Exceptions and things of other kinds, which are compared by what they are and not by what
they show, are left out as keys. -/

namespace EventLog

/-- A key of a mapping. -/
inductive Key where
  | null
  | bool (b : Bool)
  | int (n : Int)
  | float (x : Float)
  | str (t : Text)
  | date (d : Date)
  | clock (w : WallClock) (ahead : Option Int)
deriving DecidableEq

/-- What a key is compared by: a number, an instant in microseconds, or the key itself. -/
inductive KeyMeaning where
  | number (n : Int)
  | instant (micros : Int)
  | itself (k : Key)
deriving DecidableEq

/-- A value. A date or a wall clock comes from a settings file; `ahead` counts the seconds by which the
    clock is ahead of universal time, if that is known. Anything else that is no number, list or mapping
    is `other`: the name of its kind, its text, its expression, and whether it counts as set. -/
inductive Value where
  | null
  | bool (b : Bool)
  | int (n : Int)
  | float (x : Float)
  | str (t : Text)
  | date (d : Date)
  | clock (w : WallClock) (ahead : Option Int)
  | list (items : List Value)
  | map (entries : List (Key × Value))
  | error (e : Exception)
  | other (kind text expression : Text) (counts : Bool)

instance : Inhabited Value := ⟨.null⟩

/-! ## Keys -/

namespace Key

/-- The key as a value. -/
def toValue : Key → Value
  | null => .null
  | bool b => .bool b
  | int n => .int n
  | float x => .float x
  | str t => .str t
  | date d => .date d
  | clock w ahead => .clock w ahead

/-- What the key is compared by. -/
def meaning : Key → KeyMeaning
  | bool b => .number (if b then 1 else 0)
  | int n => .number n
  | float x =>
      match Double.whole? x with
      | some n => .number n
      | none => .itself (.float x)
  | clock w (some ahead) => .instant (w.instant ahead)
  | k => .itself k

/-- Whether two keys name the same entry. -/
def same (k l : Key) : Bool :=
  k.meaning == l.meaning

theorem same_iff (k l : Key) : same k l = true ↔ k.meaning = l.meaning :=
  beq_iff_eq

theorem same_self (k : Key) : same k k = true :=
  (same_iff k k).2 rfl

theorem same_symm {k l : Key} (h : same k l = true) : same l k = true :=
  (same_iff l k).2 ((same_iff k l).1 h).symm

theorem same_trans {j k l : Key} (h : same j k = true) (h' : same k l = true) :
    same j l = true :=
  (same_iff j l).2 (((same_iff j k).1 h).trans ((same_iff k l).1 h'))

/-- A text is compared by itself, and nothing else is the same key. -/
theorem same_str_iff (k : Key) (t : Text) : same k (.str t) = true ↔ k = .str t := by
  rw [same_iff]
  cases k with
  | float x =>
      simp only [meaning]
      cases Double.whole? x <;> simp
  | clock w ahead => cases ahead <;> simp [meaning]
  | _ => simp [meaning]

/-- Keys that name the same entry are the same as the same keys. -/
theorem same_congr {k l : Key} (h : same k l = true) (j : Key) : same j k = same j l := by
  rw [same, same, (same_iff k l).1 h]

end Key

/-! ## Plain text and expressions -/

namespace Value

/-- The names of the constants. -/
def boolText (b : Bool) : Text :=
  if b then "True" else "False"

end Value

/-- The key as an expression. -/
def Key.expression : Key → Text
  | null => "None"
  | bool b => Value.boolText b
  | int n => Text.ofInt n
  | float x => Double.text x
  | str t => Text.quoted t
  | date d => d.expression
  | clock w ahead => w.expression ahead

namespace Value

mutual

/-- The value as an expression: what it looks like inside a list or a mapping. -/
def expression : Value → Text
  | null => "None"
  | bool b => boolText b
  | int n => Text.ofInt n
  | float x => Double.text x
  | str t => Text.quoted t
  | date d => d.expression
  | clock w ahead => w.expression ahead
  | list items => '[' :: (expressions items ++ [']'])
  | map entries => '\x7b' :: (entryExpressions entries ++ ['\x7d'])
  | error e => e.expression
  | other _ _ e _ => e

/-- The items of a list as expressions, with commas between them. -/
def expressions : List Value → Text
  | [] => []
  | [v] => expression v
  | v :: w :: rest => expression v ++ ", " ++ expressions (w :: rest)

/-- The entries of a mapping as expressions, with commas between them. -/
def entryExpressions : List (Key × Value) → Text
  | [] => []
  | [(k, v)] => entryExpression k v
  | (k, v) :: p :: rest => entryExpression k v ++ ", " ++ entryExpressions (p :: rest)

/-- One entry of a mapping as an expression. -/
def entryExpression (k : Key) (v : Value) : Text :=
  k.expression ++ ": " ++ expression v

end

/-- The value as plain text: a text is itself. -/
def text : Value → Text
  | str t => t
  | date d => d.text
  | clock w ahead => w.text ahead
  | error e => e.text
  | other _ t _ _ => t
  | v => v.expression

@[simp] theorem text_int (n : Int) : text (int n) = Text.ofInt n := by
  simp [text, expression]

/-! ## Kinds -/

/-- Whether the value counts as set: it is not null, false, zero or empty. -/
def isSet : Value → Bool
  | null => false
  | bool b => b
  | int n => n != 0
  | float x => x != 0
  | str t => !t.isEmpty
  | list items => !items.isEmpty
  | map entries => !entries.isEmpty
  | date _ | clock .. | error _ => true
  | other _ _ _ counts => counts

/-- The name of the kind of the value. -/
def kindName : Value → Text
  | null => "NoneType"
  | bool _ => "bool"
  | int _ => "int"
  | float _ => "float"
  | str _ => "str"
  | date _ => "date"
  | clock .. => "datetime"
  | list _ => "list"
  | map _ => "dict"
  | error e => e.name
  | other kind .. => kind

/-- The value as a key, if it can be one. Lists and mappings cannot; exceptions and things of other kinds
    are left out. -/
def toKey? : Value → Option Key
  | null => some .null
  | bool b => some (.bool b)
  | int n => some (.int n)
  | float x => some (.float x)
  | str t => some (.str t)
  | date d => some (.date d)
  | clock w ahead => some (.clock w ahead)
  | list _ | map _ | error _ | other .. => none

end Value

/-! ## Entries of a mapping -/

/-- The entries of a mapping, in the order in which their keys were first written. -/
abbrev Entries := List (Key × Value)

namespace Entries

/-- What is written under the key. -/
def get? : Entries → Key → Option Value
  | [], _ => none
  | (k, v) :: rest, key => if k.same key then some v else get? rest key

/-- The entries with `v` written under the key; a known key keeps its place and its spelling. -/
def put : Entries → Key → Value → Entries
  | [], key, v => [(key, v)]
  | (k, w) :: rest, key, v => if k.same key then (k, v) :: rest else (k, w) :: put rest key v

/-- The entries written one after the other. -/
def ofList (pairs : List (Key × Value)) : Entries :=
  pairs.foldl (fun es p => put es p.1 p.2) []

/-- The entries without the one of this key. -/
def drop (es : Entries) (key : Key) : Entries :=
  es.filter fun p => !p.1.same key

theorem get?_put_self (es : Entries) (key : Key) (v : Value) :
    get? (put es key v) key = some v := by
  induction es with
  | nil => simp [put, get?, Key.same_self]
  | cons p rest ih =>
      by_cases h : p.1.same key = true
      · simp [put, get?, h]
      · simp [put, get?, h, ih]

/-- Writing under a key changes nothing that is written under another one. -/
theorem get?_put_of_not_same (es : Entries) {key other : Key} (v : Value)
    (h : key.same other = false) : get? (put es key v) other = get? es other := by
  induction es with
  | nil => simp [put, get?, h]
  | cons p rest ih =>
      by_cases hk : p.1.same key = true
      · -- a spelling of `key` cannot be one of `other`
        have ho : ¬ p.1.same other = true := fun ho => by
          simp [Key.same_trans (Key.same_symm hk) ho] at h
        simp [put, get?, hk, ho]
      · simp [put, get?, hk, ih]

end Entries
end EventLog

import EventLog.Calendar
import EventLog.Host.Yaml.Number

set_option autoImplicit false

/-! # Dates in a document

A plain scalar of the form of a date stands for it. A time of day may follow the date, down to the
microsecond, and after it how far the clock is ahead of universal time, by less than a day. The reader
returns nothing for a text that has not the form. -/

namespace EventLog.Host.Yaml.Moment

/-- What a scalar of the form of a date stands for: a day, or what a clock shows, with the seconds by
    which it is ahead, if they are given. -/
inductive Reading where
  | day (d : Date)
  | clock (w : WallClock) (ahead : Option Int)

/-- The digits at the start of a text, as a number, and the rest of the text; there are at least `least`
    and at most `most` of them. -/
def digits? (least most : Nat) (t : Text) : Option (Nat × Text) :=
  let ds := t.takeWhile Char.isDigit
  if least ≤ ds.length ∧ ds.length ≤ most then
    some (Number.inBase 10 ds, t.drop ds.length)
  else none

/-- The digits at the start of a text behind a mark. -/
def behind? (mark : Char) (least most : Nat) : Text → Option (Nat × Text)
  | c :: t => if c = mark then digits? least most t else none
  | [] => none

/-- Whether the character separates a date from a time, or a time from its zone. -/
def isBlank (c : Char) : Bool :=
  c == ' ' || c == '\t'

/-- The time of day that starts a text: hour, minute, second and microsecond, and the rest. -/
def time? (t : Text) : Option ((Nat × Nat × Nat × Nat) × Text) := do
  let (hour, t) ← digits? 1 2 t
  let (minute, t) ← behind? ':' 2 2 t
  let (second, t) ← behind? ':' 2 2 t
  match t with
  | '.' :: t =>
      let places := t.takeWhile Char.isDigit
      let six := (places ++ List.replicate 6 '0').take 6
      some ((hour, minute, second, Number.inBase 10 six), t.drop places.length)
  | _ => some ((hour, minute, second, 0), t)

/-- The seconds by which a clock is ahead, behind blanks; the text may also be empty. -/
def zone? (t : Text) : Option (Option Int) :=
  match t with
  | [] => some none
  | _ =>
      match t.dropWhile isBlank with
      | ['Z'] => some (some 0)
      | sign :: t =>
          if sign = '+' ∨ sign = '-' then
            match digits? 1 2 t with
            | some (hours, []) => some (some (Double.signed (sign == '-') (hours * 3600)))
            | some (hours, t) =>
                match behind? ':' 2 2 t with
                | some (minutes, []) =>
                    some (some (Double.signed (sign == '-') (hours * 3600 + minutes * 60)))
                | _ => none
            | none => none
          else none
      | [] => none

/-- What the numbers stand for, if the calendar has them. -/
def clockOf (year month day : Nat) (time : Nat × Nat × Nat × Nat) (ahead : Option Int) :
    Except Flaw Reading :=
  match Date.ofParts? year month day,
      TimeOfDay.ofParts? time.1 time.2.1 time.2.2.1 time.2.2.2 with
  | some d, some t =>
      if ahead.all fun s => s.natAbs < 86400 then .ok (.clock ⟨d, t⟩ ahead) else .error .noSuchDate
  | _, _ => .error .noSuchDate

/-- What a scalar of the form of a date stands for. A date alone is written with all its digits. -/
def read? (t : Text) : Option (Except Flaw Reading) := do
  let (year, rest) ← digits? 4 4 t
  let (month, rest) ← behind? '-' 1 2 rest
  let (day, rest) ← behind? '-' 1 2 rest
  match rest with
  | [] =>
      if t.length = 10 then
        some (match Date.ofParts? year month day with
          | some d => .ok (.day d)
          | none => .error .noSuchDate)
      else none
  | c :: rest =>
      if c = 'T' ∨ c = 't' ∨ isBlank c then
        let rest := if isBlank c then rest.dropWhile isBlank else rest
        let (time, rest) ← time? rest
        let ahead ← zone? rest
        some (clockOf year month day time ahead)
      else none

end EventLog.Host.Yaml.Moment

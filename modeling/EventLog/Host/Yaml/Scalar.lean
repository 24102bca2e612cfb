import EventLog.Value
import EventLog.Host.Yaml.Moment

set_option autoImplicit false

/-! # What scalars stand for

A quoted scalar is a text. A plain one may also stand for nothing, a truth value, a number or a date,
or, as the key of an entry, for a mapping to be merged; otherwise it is the text as written. Two signs
have a meaning as keys only. -/

namespace EventLog.Host.Yaml.Scalar

/-- The spellings of nothing. -/
def nullWords : List Text :=
  ["", "~", "null", "Null", "NULL"]

/-- The spellings of true. -/
def trueWords : List Text :=
  ["yes", "Yes", "YES", "true", "True", "TRUE", "on", "On", "ON"]

/-- The spellings of false. -/
def falseWords : List Text :=
  ["no", "No", "NO", "false", "False", "FALSE", "off", "Off", "OFF"]

/-- The key under which a mapping to be merged stands. -/
def mergeSign : Text := "<<"

/-- The key of the default value of a mapping, which is a text like any other. -/
def defaultSign : Text := "="

/-- What a reading of a date is as a value. -/
def ofMoment : Moment.Reading → Value
  | .day d => .date d
  | .clock w ahead => .clock w ahead

/-- The number or date that a plain scalar stands for; nothing if it has not the form of one. -/
def quantity? (t : Text) : Option (Except Flaw Value) :=
  match Number.integer? t with
  | some n => some (n.map .int)
  | none =>
      match Number.float? t with
      | some x => some (.ok (.float x))
      | none => (Moment.read? t).map fun r => r.map ofMoment

/-- The value that a plain scalar stands for. -/
def resolve (t : Text) : Except Flaw Value :=
  if nullWords.contains t then .ok .null
  else if trueWords.contains t then .ok (.bool true)
  else if falseWords.contains t then .ok (.bool false)
  else if t = mergeSign ∨ t = defaultSign then .error .malformed
  else (quantity? t).getD (.ok (.str t))

/-- The key that a plain scalar stands for. -/
def resolveKey (t : Text) : Except Flaw Key :=
  if t = defaultSign then .ok (.str t)
  else
    match resolve t with
    | .ok v =>
        match v.toKey? with
        | some k => .ok k
        | none => .error .malformed
    | .error f => .error f

end EventLog.Host.Yaml.Scalar

import EventLog.Fault
import EventLog.Value

set_option autoImplicit false

/-! # Values that stand for mappings

Where a mapping is expected, a list of pairs will do. A pair is a list of two values, a text of two
characters or a mapping with two keys, since each of these has two parts; an empty text or list is a
mapping without entries. -/

namespace EventLog.Value

/-- The parts of a value that can be taken apart. -/
def parts? : Value → Option (List Value)
  | list items => some items
  | str t => some (t.map fun c => .str [c])
  | map entries => some (entries.map fun p => p.1.toValue)
  | _ => none

/-- The entry that a pair stands for. -/
def toEntry (v : Value) : Except Fault (Key × Value) :=
  match v.parts? with
  | none => .error .notAMapping
  | some [k, w] =>
      match k.toKey? with
      | some key => .ok (key, w)
      | none => .error .keyNotAllowed
  | some _ => .error .notAPair

/-- The entries that the pairs of a list stand for, written one after the other. -/
def toEntries (es : Entries) : List Value → Except Fault Entries
  | [] => .ok es
  | v :: rest =>
      match v.toEntry with
      | .ok (key, w) => toEntries (es.put key w) rest
      | .error f => .error f

/-- The entries of the mapping that a value stands for. -/
def toMapping : Value → Except Fault Entries
  | map entries => .ok entries
  | v =>
      match v.parts? with
      | some items => toEntries [] items
      | none => .error .notAMapping

@[simp] theorem toMapping_map (es : Entries) : toMapping (map es) = .ok es := rfl

end EventLog.Value

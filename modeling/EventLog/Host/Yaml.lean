import EventLog.Host.Yaml.Node
import EventLog.Host.Yaml.Scalar

set_option autoImplicit false

/-! # Documents of settings

A reader of documents for the runs of the library, in place of the host's own. It reads YAML documents
of a plain kind: mappings and lists, in block style or between braces and brackets, scalars that are
plain or quoted, and comments. It takes block scalars, anchors and tags for faults of form. `read` gives
the value of the one document of a text. A mapping may take over the entries of others, which its own
entries override.

If several nodes stand for nothing, the flaw that counts is that of the node at the least depth, and
of those the first one. -/

namespace EventLog.Host.Yaml

/-! ## Characters -/

/-- Whether a character may stand in a document. -/
def isAllowed (c : Char) : Bool :=
  let n := c.toNat
  n == 0x09 || n == 0x0A || (0x20 ≤ n && n ≤ 0x7E) || n == 0x85 || (0xA0 ≤ n && n ≤ 0xFFFD)
    || 0x10000 ≤ n

/-- The text with each kind of line end as a line feed. -/
def unifyLines : Text → Text
  | '\r' :: '\n' :: t => '\n' :: unifyLines t
  | '\r' :: t => '\n' :: unifyLines t
  | c :: t => c :: unifyLines t
  | [] => []

namespace Node

/-! ## Entries that are taken over -/

/-- Whether the node is the key under which a mapping to be merged stands. -/
def isMergeKey : Node → Bool
  | scalar t isPlain => isPlain && t == Scalar.mergeSign
  | _ => false

mutual

/-- The entries of a mapping, behind those that it takes over. -/
def flatten (entries : List (Node × Node)) : Except Flaw (List (Node × Node)) := do
  let (taken, own) ← split entries
  .ok (taken ++ own)

/-- The entries that a mapping takes over, and its own. -/
def split : List (Node × Node) → Except Flaw (List (Node × Node) × List (Node × Node))
  | [] => .ok ([], [])
  | (k, v) :: rest =>
      if k.isMergeKey then do
        let first ← merged v
        let (taken, own) ← split rest
        .ok (first ++ taken, own)
      else do
        let (taken, own) ← split rest
        .ok (taken, (k, v) :: own)

/-- The entries that are taken over from a mapping, or from several ones. -/
def merged : Node → Except Flaw (List (Node × Node))
  | scalar _ _ => .error .malformed
  | map entries => flatten entries
  | list items => mergedAll items

/-- The entries that are taken over from several mappings, those of an earlier one last. -/
def mergedAll : List Node → Except Flaw (List (Node × Node))
  | [] => .ok []
  | map entries :: rest => do
      let last ← flatten entries
      let others ← mergedAll rest
      .ok (others ++ last)
  | _ :: _ => .error .malformed

end

/-! ## Values -/

/-- The value of a scalar. -/
def ofScalar (t : Text) (isPlain : Bool) : Except Flaw Value :=
  if isPlain then Scalar.resolve t else .ok (.str t)

/-- The key that a node stands for; lists and mappings cannot be keys. -/
def toKey : Node → Except Flaw Key
  | scalar t isPlain => if isPlain then Scalar.resolveKey t else .ok (.str t)
  | _ => .error .malformed

/-- The value of a node, whose depth is less than the first number. -/
def toValue : Nat → Node → Except Flaw Value
  | 0, _ => .error .malformed
  | _ + 1, scalar t isPlain => ofScalar t isPlain
  | depth + 1, list items => do
      .ok (.list (← items.mapM (toValue depth)))
  | depth + 1, map entries => do
      let pairs ← (← flatten entries).mapM fun (k, v) => do
        let key ← k.toKey
        .ok (key, ← toValue depth v)
      .ok (.map (Entries.ofList pairs))

/-- The first flaw of the scalars in a list or mapping, those further inside not counted. -/
def ownFlaw? : Node → Option Flaw
  | scalar .. => none
  | list items => items.findSome? scalarFlaw?
  | map entries =>
      match flatten entries with
      | .error f => some f
      | .ok pairs => pairs.findSome? fun (k, v) =>
          match k.toKey with
          | .error f => some f
          | .ok _ => scalarFlaw? v
where
  /-- The flaw of a scalar. -/
  scalarFlaw? : Node → Option Flaw
    | scalar t isPlain =>
        match ofScalar t isPlain with
        | .error f => some f
        | .ok _ => none
    | _ => none

/-- The first flaw of the lists and mappings that stand so deep in a node. -/
def flawAt? : Nat → Node → Option Flaw
  | 0, node => node.ownFlaw?
  | _ + 1, scalar .. => none
  | depth + 1, list items => items.findSome? (flawAt? depth)
  | depth + 1, map entries =>
      match flatten entries with
      | .error _ => none
      | .ok pairs => pairs.findSome? fun p => flawAt? depth p.2

/-- The value of the root of a document, whose depth is less than `bound`. -/
def rootValue (bound : Nat) (node : Node) : Except Flaw Value :=
  match toValue bound node with
  | .ok v => .ok v
  | .error f => .error (((List.range bound).findSome? fun depth => flawAt? depth node).getD f)

end Node

/-- The value of the document of a text; a text without a document has none. -/
def read (text : Text) : Except Flaw Value := do
  let text := unifyLines text
  if !text.all isAllowed then .error .malformed
  else
    let tokens := tokens text
    match ← Node.root? tokens with
    | none => .ok .null
    | some node => node.rootValue (tokens.length + 1)

/-- The value of the document of a text, or the exception that says why there is none. -/
def load (text : Text) : Except Exception Value :=
  (read text).mapError Flaw.toException

end EventLog.Host.Yaml

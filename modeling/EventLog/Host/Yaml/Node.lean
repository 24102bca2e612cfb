import EventLog.Host.Yaml.Token

set_option autoImplicit false

/-! # Nodes of a document

The tokens of a document make up a tree of scalars, lists and mappings. A key or a value that is not
written is an empty plain scalar. A list in block style may stand in the column of the key above it;
its items are then not framed by tokens for its start and end. An entry between brackets is a mapping
of its own. -/

namespace EventLog.Host.Yaml

/-- A node of a document. -/
inductive Node where
  | scalar (t : Text) (isPlain : Bool)
  | list (items : List Node)
  | map (entries : List (Node × Node))

namespace Node

/-- What stands for a key or value that is not written. -/
def missing : Node := .scalar [] true

/-- Where a node stands: between braces or brackets, in block style, or in block style behind a key
    or colon, where an unframed list can stand. -/
inductive Place where
  | flow
  | block
  | entry
deriving DecidableEq

/-- The flaw of a document that cannot go on with these tokens. -/
def refuse {α : Type} : List Token → Except Flaw α
  | .flaw f :: _ => .error f
  | _ => .error .malformed

/-- Whether the first token is one of these. -/
def startsWith (tokens : List Token) (firsts : List Token) : Bool :=
  tokens.head?.any firsts.contains

mutual

/-- The node at the start of the tokens, and the tokens behind it. -/
def read : Nat → Place → List Token → Except Flaw (Node × List Token)
  | 0, _, _ => .error .malformed
  | fuel + 1, place, tokens =>
      match tokens, place with
      | .scalar t isPlain :: rest, _ => .ok (.scalar t isPlain, rest)
      | .openList :: rest, _ => readFlowItems fuel true [] rest
      | .openMap :: rest, _ => readFlowEntries fuel true [] rest
      | .dash :: _, .entry => readLooseItems fuel [] tokens
      | .blockList :: _, .flow | .blockMap :: _, .flow => .error .malformed
      | .blockList :: rest, _ => readItems fuel [] rest
      | .blockMap :: rest, _ => readEntries fuel [] rest
      | _, _ => refuse tokens

/-- The node at the start of the tokens, which is missing if one of the tokens `ends` comes first. -/
def readOr : Nat → Place → List Token → List Token → Except Flaw (Node × List Token)
  | 0, _, _, _ => .error .malformed
  | fuel + 1, place, ends, tokens =>
      if startsWith tokens ends then .ok (missing, tokens) else read fuel place tokens

/-- The value behind a colon, which is missing if there is no colon. -/
def readValue : Nat → Place → List Token → List Token → Except Flaw (Node × List Token)
  | 0, _, _, _ => .error .malformed
  | fuel + 1, place, ends, tokens =>
      match tokens with
      | .colon :: rest => readOr fuel place ends rest
      | _ => .ok (missing, tokens)

/-- The items of a list in block style up to its end; `items` holds those so far, last one first. -/
def readItems : Nat → List Node → List Token → Except Flaw (Node × List Token)
  | 0, _, _ => .error .malformed
  | fuel + 1, items, tokens =>
      match tokens with
      | .dash :: rest => do
          let (item, rest) ← readOr fuel .block [.dash, .blockEnd] rest
          readItems fuel (item :: items) rest
      | .blockEnd :: rest => .ok (.list items.reverse, rest)
      | _ => refuse tokens

/-- The items of an unframed list, which ends where no dash follows. -/
def readLooseItems : Nat → List Node → List Token → Except Flaw (Node × List Token)
  | 0, _, _ => .error .malformed
  | fuel + 1, items, tokens =>
      match tokens with
      | .dash :: rest => do
          let (item, rest) ← readOr fuel .block [.dash, .key, .colon, .blockEnd] rest
          readLooseItems fuel (item :: items) rest
      | _ => .ok (.list items.reverse, tokens)

/-- The entries of a mapping in block style up to its end. -/
def readEntries : Nat → List (Node × Node) → List Token → Except Flaw (Node × List Token)
  | 0, _, _ => .error .malformed
  | fuel + 1, entries, tokens =>
      match tokens with
      | .key :: rest => do
          let ends := [.key, .colon, .blockEnd]
          let (key, rest) ← readOr fuel .entry ends rest
          let (value, rest) ← readValue fuel .entry ends rest
          readEntries fuel ((key, value) :: entries) rest
      | .blockEnd :: rest => .ok (.map entries.reverse, rest)
      | _ => refuse tokens

/-- The items of a list between brackets up to its end; a comma comes first, except at the start. -/
def readFlowItems : Nat → Bool → List Node → List Token → Except Flaw (Node × List Token)
  | 0, _, _, _ => .error .malformed
  | fuel + 1, atStart, items, tokens =>
      match tokens, atStart with
      | .closeList :: rest, _ => .ok (.list items.reverse, rest)
      | .comma :: rest, false => readFlowItem fuel items rest
      | _, true => readFlowItem fuel items tokens
      | _, false => refuse tokens

/-- The next item of a list between brackets, if there is one, and those after it. -/
def readFlowItem : Nat → List Node → List Token → Except Flaw (Node × List Token)
  | 0, _, _ => .error .malformed
  | fuel + 1, items, tokens =>
      match tokens with
      | .closeList :: rest => .ok (.list items.reverse, rest)
      | .key :: rest => do
          let (key, rest) ← readOr fuel .flow [.colon, .comma, .closeList] rest
          let (value, rest) ← readValue fuel .flow [.comma, .closeList] rest
          readFlowItems fuel false (.map [(key, value)] :: items) rest
      | _ => do
          let (item, rest) ← read fuel .flow tokens
          readFlowItems fuel false (item :: items) rest

/-- The entries of a mapping between braces up to its end; a comma comes first, except at the start. -/
def readFlowEntries :
    Nat → Bool → List (Node × Node) → List Token → Except Flaw (Node × List Token)
  | 0, _, _, _ => .error .malformed
  | fuel + 1, atStart, entries, tokens =>
      match tokens, atStart with
      | .closeMap :: rest, _ => .ok (.map entries.reverse, rest)
      | .comma :: rest, false => readFlowEntry fuel entries rest
      | _, true => readFlowEntry fuel entries tokens
      | _, false => refuse tokens

/-- The next entry of a mapping between braces, if there is one, and those after it. An entry without
    a colon has a key only. -/
def readFlowEntry : Nat → List (Node × Node) → List Token → Except Flaw (Node × List Token)
  | 0, _, _ => .error .malformed
  | fuel + 1, entries, tokens =>
      match tokens with
      | .closeMap :: rest => .ok (.map entries.reverse, rest)
      | .key :: rest => do
          let (key, rest) ← readOr fuel .flow [.colon, .comma, .closeMap] rest
          let (value, rest) ← readValue fuel .flow [.comma, .closeMap] rest
          readFlowEntries fuel false ((key, value) :: entries) rest
      | _ => do
          let (key, rest) ← read fuel .flow tokens
          readFlowEntries fuel false ((key, missing) :: entries) rest

end

/-! ## Documents -/

/-- The tokens behind the directives of a document. There is at most one for the version of the
    language, and it is a version with the major number 1. -/
def afterDirectives (versionGiven : Bool) : List Token → Except Flaw (List Token)
  | .directive (some major) :: rest =>
      if versionGiven || major != 1 then .error .malformed else afterDirectives true rest
  | .directive none :: rest => afterDirectives versionGiven rest
  | tokens => .ok tokens

/-- Nothing, if these are the tokens behind a single document. -/
def checkEnd (tokens : List Token) : Except Flaw Unit := do
  match tokens.dropWhile (· = .documentEnd) with
  | [.finish] => .ok ()
  | rest => refuse (← afterDirectives false rest)

/-- The root of the document that the tokens make up, if they make up one. -/
def root? (tokens : List Token) : Except Flaw (Option Node) := do
  let fuel := 4 * tokens.length + 4
  match tokens with
  | [.finish] => .ok none
  | .directive _ :: _ | .documentStart :: _ =>
      match ← afterDirectives false tokens with
      | .documentStart :: rest =>
          let ends := [.documentStart, .documentEnd, .finish]
          let isDirective := rest.head?.any fun t => t matches .directive _
          let (node, rest) ← if isDirective then .ok (missing, rest) else readOr fuel .block ends rest
          checkEnd rest
          .ok (some node)
      | rest => refuse rest
  | _ =>
      let (node, rest) ← read fuel .block tokens
      checkEnd rest
      .ok (some node)

end Node
end EventLog.Host.Yaml

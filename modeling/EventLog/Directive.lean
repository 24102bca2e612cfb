import EventLog.Text

set_option autoImplicit false

/-! # Directives

A directive names a part of an event that a layout can show. It is written as one of its aliases; no
alias belongs to two directives. In a layout the letters of an alias may run on into literal text:
`resolve` takes the longest alias that the letters start with and hands back the letters that are
left. If the letters are an alias as a whole, that is the longest one. -/

namespace EventLog

/-- A part of an event that a layout can show. -/
inductive Directive where
  | logger | date | exception | file | properties | line | message | method | newline | level
  | relative | sequence
deriving DecidableEq

namespace Directive

/-- All directives. -/
def all : List Directive :=
  [logger, date, exception, file, properties, line, message, method, newline, level, relative,
    sequence]

/-- The full name of the directive. -/
def name : Directive → Text
  | logger => "logger"
  | date => "date"
  | exception => "exception"
  | file => "file"
  | properties => "map"
  | line => "line"
  | message => "message"
  | method => "method"
  | newline => "newline"
  | level => "level"
  | relative => "relative"
  | sequence => "sequenceNumber"

/-- The spellings of the directive in layouts. -/
def aliases : Directive → List Text
  | logger => ["c", "logger"]
  | date => ["d", "date"]
  | exception => ["ex", "exception", "throwable"]
  | file => ["F", "file"]
  | properties => ["K", "map", "MAP"]
  | line => ["L", "line"]
  | message => ["m", "msg", "message"]
  | method => ["M", "method"]
  | newline => ["n"]
  | level => ["p", "level"]
  | relative => ["r", "relative"]
  | sequence => ["sn", "sequenceNumber"]

/-- Every alias with its directive. -/
def aliasTable : List (Text × Directive) :=
  all.flatMap fun d => d.aliases.map (·, d)

/-- The directive with this full name. -/
def ofName? (name : Text) : Option Directive :=
  all.find? fun d => d.name == name

/-- Whether the text is one of the aliases of the directive; a line feed at its end is ignored. -/
def isSpelled (d : Directive) (t : Text) : Bool :=
  d.aliases.any fun a => t == a || t == a ++ ['\n']

/-- The directive of which the text is an alias. -/
def lookup? (t : Text) : Option Directive :=
  all.find? (·.isSpelled t)

/-- Of two aliases the longer one. -/
def longer (p q : Text × Directive) : Text × Directive :=
  if p.1.length < q.1.length then q else p

/-- The longest alias that the text starts with, and its directive. -/
def longestAlias? (t : Text) : Option (Text × Directive) :=
  match aliasTable.filter (·.1.isPrefixOf t) with
  | [] => none
  | p :: rest => some (rest.foldl longer p)

/-- The directive that a run of letters names, and the letters that are left over. -/
def resolve (t : Text) : Option Directive × Text :=
  match lookup? t with
  | some d => (some d, [])
  | none =>
      match longestAlias? t with
      | some (a, d) => (some d, t.drop a.length)
      | none => (none, [])

theorem mem_all (d : Directive) : d ∈ all := by
  cases d <;> decide

/-- No alias belongs to two directives. -/
theorem nodup_aliases : (aliasTable.map (·.1)).Nodup := by
  decide

/-- An alias is a run of letters. -/
theorem isLetter_of_mem_aliasTable :
    ∀ p ∈ aliasTable, p.1 ≠ [] ∧ p.1.all Text.isLetter = true := by
  decide

theorem mem_aliases_of_mem_aliasTable (p : Text × Directive) (h : p ∈ aliasTable) :
    p.1 ∈ p.2.aliases := by
  obtain ⟨d, -, hp⟩ := List.mem_flatMap.1 h
  obtain ⟨a, ha, rfl⟩ := List.mem_map.1 hp
  exact ha

theorem mem_aliasTable {d : Directive} {a : Text} (h : a ∈ d.aliases) : (a, d) ∈ aliasTable :=
  List.mem_flatMap.2 ⟨d, mem_all d, List.mem_map.2 ⟨a, h, rfl⟩⟩

theorem lookup?_alias : ∀ p ∈ aliasTable, lookup? p.1 = some p.2 := by
  decide

/-- The letters of an alias name its directive, and none are left over. -/
theorem resolve_alias (p : Text × Directive) (h : p ∈ aliasTable) :
    resolve p.1 = (some p.2, []) := by
  simp only [resolve, lookup?_alias p h]

end Directive
end EventLog

import EventLog.Directive

set_option autoImplicit false

/-! # Layouts and their segments

A layout is a text with directives in it. It is cut in front of every percent sign: what comes before
the first one is literal text, and each chunk that starts with one is a segment. A chunk in which
letters follow the percent sign names a directive, with parameters between braces and literal text
after them; any other chunk is literal text. `compile_append` says that the segments of a layout are
those of its parts. -/

namespace EventLog

/-- A part of a compiled layout. A directive segment without a directive stands for a name that no
    directive has; it shows nothing but the text after it. -/
inductive Segment where
  | literal (t : Text)
  | directive (kind : Option Directive) (params : List Text) (after : Text)
  | nothing
deriving DecidableEq

namespace Layout

/-! ## Chunks -/

/-- The literal text before the first percent sign, and the chunks that start with one. -/
def chunks (layout : Text) : Text × List Text :=
  let (first, rest) := Text.cut '%' layout
  (first, rest.map ('%' :: ·))

/-- No character of the layout is lost. -/
theorem chunks_flatten (layout : Text) : (chunks layout).1 ++ (chunks layout).2.flatten = layout := by
  have h := Text.mend_cut '%' layout
  simpa [chunks, Text.mend, List.flatMap_def] using h

/-! ## Segments -/

/-- The parameters of a chunk. Outside of a parameter (`none`) an opening brace starts one; inside,
    where `some read` holds the characters read so far, last one first, a closing brace ends it. A
    brace that is never closed starts no parameter. -/
def paramsFrom : Option Text → Text → List Text
  | _, [] => []
  | none, c :: rest => paramsFrom (if c = '\x7b' then some [] else none) rest
  | some read, c :: rest =>
      if c = '\x7d' then read.reverse :: paramsFrom none rest else paramsFrom (some (c :: read)) rest

/-- The parameters of a chunk. -/
def params (chunk : Text) : List Text :=
  paramsFrom none chunk

/-- The literal text at the end of a chunk whose directive name is followed by `rest`: what comes
    after the last closing brace, if there is one. -/
def tailText (rest : Text) : Text :=
  (Text.afterLast? '\x7d' rest).getD rest

/-- The segment of a chunk. -/
def segment : Text → Segment
  | '%' :: t =>
      let name := t.takeWhile Text.isLetter
      let rest := t.dropWhile Text.isLetter
      if name.isEmpty then .literal ('%' :: t)
      else
        let (kind, leftover) := Directive.resolve name
        let params := params rest
        let after := leftover ++ tailText rest
        if kind.isNone && after.isEmpty && params.isEmpty then .nothing
        else .directive kind params after
  | t => .literal t

/-- The segments of a layout. -/
def compile (layout : Text) : List Segment :=
  let (first, rest) := chunks layout
  (if first.isEmpty then [] else [.literal first]) ++ rest.map segment

@[simp] theorem compile_nil : compile [] = [] := rfl

/-- The segments of a layout are those of the part before a percent sign and those of the part from
    there on. -/
theorem compile_append (a b : Text) :
    compile (a ++ '%' :: b) = compile a ++ compile ('%' :: b) := by
  simp [compile, chunks, Text.cut_append_sep, Text.cut]

end Layout
end EventLog

import EventLog.DatePattern
import EventLog.Environment
import EventLog.Exception.Indented
import EventLog.Level
import EventLog.Text.Blank

set_option autoImplicit false

/-! # Rendering events

What a directive shows is read off the event (`Directive.text`). Only the source location may have to
be found first: a directive for file or line that finds its own field empty asks the provider, and the
answer fills in all location fields of the event. So rendering can change these fields and the
provider, give a notice, and end with an exception that the provider raised; it changes nothing else
and cannot end otherwise. A rendered layout loses the white space around it. -/

namespace EventLog

/-- An event in its environment, which is what rendering reads and changes. -/
structure Scene where
  env : Environment
  event : Event

/-! ## What a directive shows -/

namespace Entries

/-- One property between braces. -/
def shownPair (p : Key × Value) : Text :=
  '\x7b' :: (p.1.toValue.text ++ ',' :: (p.2.text ++ ['\x7d']))

/-- The properties between braces: the values under a key, or all of them with their keys if the key
    is empty. -/
def shown (es : Entries) (key : Text) : Text :=
  let items :=
    if key.isEmpty then es.map shownPair
    else (es.filter fun p => p.1.toValue.text = key).map (·.2.text)
  '\x7b' :: (Text.join [','] items ++ ['\x7d'])

end Entries

namespace Directive

/-- What the directive shows of an event whose location is filled in, if it shows anything. -/
def text (zone : LocalZone) (e : Event) (params : List Text) : Directive → Option Text
  | logger => some e.logger
  | date => some (DatePattern.format zone e.date params.head?)
  | exception => some ((e.error.map Exception.indented).getD [])
  | file => e.file
  | properties => e.properties.map (·.shown (params.headD []))
  | line => e.line
  | message => some e.message
  | method => some e.method.name
  | newline => some "\n"
  | level => some (Level.name e.level)
  | relative => some (Text.ofInt e.relative)
  | sequence => some (Text.ofInt e.sequence)

/-- Whether the directive shows a location field that is still empty. -/
def needsLocation (e : Event) : Directive → Bool
  | file => !Text.isPresent e.file
  | line => !Text.isPresent e.line
  | _ => false

end Directive

/-! ## Finding the location -/

namespace Scene

/-- The scene with the location of the event filled in. -/
def setLocation (s : Scene) (l : SourceLocation) : Scene :=
  { s with event := s.event.setLocation l }

/-- Asks the provider for the location of the event and fills it in. An exception that only says that
    the location is not known counts as no answer; any other one ends the rendering. -/
def locate : EStateM Fault Scene Unit := fun s =>
  let (answer, provider) := s.env.provider.locate s.event
  let s := { s with env := { s.env with provider := provider } }
  match answer with
  | .found l => .ok () (s.setLocation l)
  | .unknown => .ok () (s.setLocation .unknown)
  | .raised e =>
      if e.isTolerated then
        .ok () ({ s with env := s.env.report (.lookupFailed e.text) }.setLocation .unknown)
      else .error (.raised e) s

end Scene

/-! ## Segments and layouts -/

/-- Renders a directive; asking for none is a fault. -/
def Directive.render (kind : Option Directive) (params : List Text) :
    EStateM Fault Scene (Option Text) :=
  match kind with
  | none => throw .noDirective
  | some d => do
      if d.needsLocation (← get).event then Scene.locate
      let s ← get
      pure (d.text s.env.zone s.event params)

/-- Renders a segment; a directive that shows nothing leaves its trailing text. -/
def Segment.render : Segment → EStateM Fault Scene Text
  | .literal t => pure t
  | .nothing => pure []
  | .directive none _ after => pure after
  | .directive (some d) params after => do
      let shown ← Directive.render (some d) params
      pure (shown.getD [] ++ after)

namespace Layout

/-- Renders segments one after the other. -/
def renderAll : List Segment → EStateM Fault Scene Text
  | [] => pure []
  | segment :: rest => do
      let t ← segment.render
      let u ← renderAll rest
      pure (t ++ u)

/-- Renders segments and removes the white space around the result. -/
def renderStripped (segments : List Segment) : EStateM Fault Scene Text := do
  let t ← renderAll segments
  pure (Text.strip t)

/-- Renders the event through a layout, which is compiled unless it is kept. -/
def format (layout : Text) : EStateM Fault Scene Text := do
  let s ← get
  let (segments, env) := s.env.fetch layout
  set { s with env := env }
  renderStripped segments

@[simp] theorem renderAll_nil (s : Scene) : renderAll [] s = .ok [] s := rfl

theorem renderAll_cons (segment : Segment) (rest : List Segment) (s : Scene) :
    renderAll (segment :: rest) s
      = match segment.render s with
        | .ok t s' =>
            match renderAll rest s' with
            | .ok u s'' => .ok (t ++ u) s''
            | .error f s'' => .error f s''
        | .error f s' => .error f s' := by
  simp only [renderAll, bind, EStateM.bind]
  cases segment.render s with
  | error f s' => rfl
  | ok t s' =>
      dsimp only
      cases renderAll rest s' <;> rfl

end Layout
end EventLog

import EventLog.Config.File
import EventLog.Host.Traceback
import EventLog.Host.Yaml
import EventLog.Diagnostics
import EventLog.Proofs.Layout.RoundTrip
import EventLog.Proofs.Layout.TrailingText
import EventLog.Session
import EventLog.Proofs.Registry.Outcome
import EventLog.Proofs.Registry.Invariant
import EventLog.Proofs.Session.History
import EventLog.Proofs.Registry.Lookup
import EventLog.Proofs.Registry.Atomicity
import EventLog.Proofs.Session.Freeze
import EventLog.Proofs.Calendar.DayCount
import EventLog.Proofs.DatePattern.UniversalTime
import EventLog.Proofs.Rendering.Outcome
import EventLog.Proofs.Rendering.History
import EventLog.Proofs.Rendering.KnownLocation
import EventLog.Proofs.Rendering.Failure
import EventLog.Proofs.Rendering.Message
import EventLog.Proofs.Rendering.KeptLayouts
import EventLog.Proofs.Registry.Delivery
import EventLog.Proofs.Session.Routing
import EventLog.Proofs.DatePattern.Separators
import EventLog.Proofs.Session.PreparedLayouts
import EventLog.Proofs.Registry.Acceptance
import EventLog.Proofs.Session.DefaultConfiguration
import EventLog.Proofs.Registry.Normalization
import EventLog.Proofs.Session.Written
import EventLog.Proofs.Session.Numbering
import EventLog.Proofs.DatePattern.Decoding
import EventLog.Proofs.DatePattern.Readable
import EventLog.Proofs.DatePattern.Substitution
import EventLog.Proofs.DatePattern.LocalTime
import EventLog.Proofs.Zone.Search
import EventLog.Proofs.DatePattern.ZoneField
import EventLog.Proofs.DatePattern.OffsetField
import EventLog.Proofs.Layout.Chunks
import EventLog.Proofs.Rendering.Aliases
import EventLog.Proofs.Rendering.Echo
import EventLog.Proofs.Logger.Caller
import EventLog.Proofs.Logger.Placeholders
import EventLog.Proofs.Session.Arguments
import EventLog.Proofs.Registry.Composition
import EventLog.Proofs.Registry.Levels
import EventLog.Proofs.Path.Below
import EventLog.Proofs.Location.BaseDirectory
import EventLog.Proofs.Exception.Indentation
import EventLog.Proofs.Diagnostics.Handlers
import EventLog.Proofs.Directive.Resolution

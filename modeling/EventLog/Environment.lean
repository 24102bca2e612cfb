import EventLog.Layout.Cache
import EventLog.Location
import EventLog.Notice

set_option autoImplicit false

/-! # What all loggers share

The local zone, the kept layouts, the provider of source locations, the notices given so far and the
two streams of the console belong to no logger in particular. -/

namespace EventLog

/-- What all loggers share. -/
structure Environment where
  zone : LocalZone
  cache : Cache
  provider : Provider
  /-- The notices given so far, oldest first. -/
  notices : List Notice
  /-- What was written to the console. -/
  output : Text
  /-- What was written to the console as an error. -/
  errors : Text

namespace Environment

/-- The environment at the start: nothing is kept, and nothing is known about source locations. -/
def initial (zone : LocalZone) : Environment where
  zone := zone
  cache := []
  provider := .silent
  notices := []
  output := []
  errors := []

/-- The environment after one more notice. -/
def report (env : Environment) (n : Notice) : Environment :=
  { env with notices := env.notices ++ [n] }

/-- Compiles a layout, kept or not, and reports that. -/
def compile (env : Environment) (layout : Text) : List Segment × Environment :=
  let (segments, cache) := env.cache.compile layout
  (segments, { env with cache := cache }.report (.compiled layout segments.length))

/-- The kept form of a layout, which is compiled if there is none. -/
def fetch (env : Environment) (layout : Text) : List Segment × Environment :=
  match env.cache.get? layout with
  | some segments => (segments, env)
  | none => env.compile layout

/-- The environment without kept layouts. -/
def clearCache (env : Environment) : Environment :=
  { env with cache := [] }

/-- The environment with another provider. -/
def install (env : Environment) (source : LocationSource) : Environment :=
  { env with provider := .ofSource source }

theorem fetch_cache (env : Environment) (layout : Text) :
    (env.fetch layout).2.cache = (env.cache.fetch layout).2
      ∧ (env.fetch layout).1 = (env.cache.fetch layout).1 := by
  unfold fetch Cache.fetch
  cases env.cache.get? layout <;> exact ⟨rfl, rfl⟩

end Environment
end EventLog

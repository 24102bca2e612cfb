import EventLog.Layout
import EventLog.Table

set_option autoImplicit false

/-! # Compiled layouts that are kept

Layouts are few and live long, so a compiled layout is kept and never compiled again unless that is
asked for. A cache is sound if it holds for each layout what compiling it gives; storing keeps this,
so a kept layout can stand for a fresh one. -/

namespace EventLog

/-- The compiled layouts by layout, in the order in which they were first compiled. -/
abbrev Cache := Table Text (List Segment)

namespace Cache

/-- Compiles a layout, kept or not, and keeps it. -/
def compile (c : Cache) (layout : Text) : List Segment × Cache :=
  (Layout.compile layout, c.put layout (Layout.compile layout))

/-- The kept form of a layout, which is compiled if there is none. -/
def fetch (c : Cache) (layout : Text) : List Segment × Cache :=
  match c.get? layout with
  | some segments => (segments, c)
  | none => c.compile layout

/-- What was fetched is kept. -/
theorem get?_fetch (c : Cache) (layout : Text) :
    (c.fetch layout).2.get? layout = some (c.fetch layout).1 := by
  unfold fetch
  cases h : c.get? layout with
  | none => exact Table.get?_put_self _ _ _
  | some segments => exact h

/-- Whether the cache holds for each layout what compiling it gives. -/
def Sound (c : Cache) : Prop :=
  ∀ layout segments, c.get? layout = some segments → segments = Layout.compile layout

theorem sound_nil : Sound [] := by
  intro layout segments h
  simp at h

theorem Sound.compile {c : Cache} (h : c.Sound) (layout : Text) : (c.compile layout).2.Sound := by
  intro other segments ho
  simp only [Cache.compile] at ho
  by_cases e : other = layout
  · subst e
    rw [Table.get?_put_self] at ho
    exact (Option.some.inj ho).symm
  · rw [Table.get?_put_of_ne _ _ e] at ho
    exact h _ _ ho

theorem Sound.fetch {c : Cache} (h : c.Sound) (layout : Text) : (c.fetch layout).2.Sound := by
  unfold Cache.fetch
  split
  · exact h
  · exact h.compile layout

/-- A sound cache gives what compiling gives. -/
theorem Sound.fetch_fst {c : Cache} (h : c.Sound) (layout : Text) :
    (c.fetch layout).1 = Layout.compile layout := by
  unfold Cache.fetch
  split
  · rename_i s hs
    exact h _ _ hs
  · rfl

end Cache
end EventLog

import EventLog.Layout

set_option autoImplicit false

/-! # Writing layouts

A layout can be put together from parts: a literal text, and items that each start with a percent
sign. An item is either literal text behind its percent sign or the alias of a directive, with
parameters between braces and literal text after them. `Item.IsWritable` tells which items keep to
themselves: what such an item writes cannot be taken for more or for less than the item. -/

namespace EventLog.Layout

/-- A part of a layout that starts with a percent sign. -/
inductive Item where
  | percent (t : Text)
  | directive (name : Text) (params : List Text) (after : Text)
deriving DecidableEq

/-- Whether the text starts with a letter. -/
def startsWithLetter (t : Text) : Bool :=
  t.head?.any Text.isLetter

/-- A parameter between braces. -/
def braced (param : Text) : Text :=
  '\x7b' :: (param ++ ['\x7d'])

namespace Item

/-- How the item is written. -/
def text : Item → Text
  | percent t => '%' :: t
  | directive name params after => '%' :: (name ++ (params.flatMap braced ++ after))

/-- The segment that the item stands for. -/
def segment : Item → Segment
  | percent t => .literal ('%' :: t)
  | directive name params after => .directive (Directive.lookup? name) params after

/-- Whether the item is read back as it was written: its name is an alias, and no part of it holds
    a character that ends the part before its end. -/
def IsWritable : Item → Prop
  | percent t => '%' ∉ t ∧ startsWithLetter t = false
  | directive name params after =>
      name ∈ Directive.aliasTable.map (·.1) ∧ (∀ p ∈ params, '\x7d' ∉ p ∧ '%' ∉ p)
        ∧ '\x7d' ∉ after ∧ '%' ∉ after ∧ (params = [] → startsWithLetter after = false)

instance (item : Item) : Decidable item.IsWritable := by
  cases item <;> unfold IsWritable <;> infer_instance

end Item

/-- The layout that starts with a literal text and goes on with these items. -/
def print (first : Text) (items : List Item) : Text :=
  first ++ items.flatMap Item.text

end EventLog.Layout

import AnidbClient.Settings.Tree

/-!
# Typed reading

A section of the settings is a table of its fields, or a list of them in their order.  A field
that is missing has its default; one that is there must have exactly the right type: a number in
digits is no text, a text in digits is no number, and zero and one are no truth values.
-/

namespace AnidbClient.Settings

namespace Tree

/-- A text. -/
def text? : Tree → Option Text
  | text s => some s
  | _ => none

/-- A truth value. -/
def bool? : Tree → Option Bool
  | bool b => some b
  | _ => none

/-- A whole number from zero on and below a bound. -/
def natural? (bound : Nat) : Tree → Option Nat
  | int i => if 0 ≤ i ∧ i < bound then some i.toNat else none
  | _ => none

/-- A number of sixteen bits. -/
def u16? (t : Tree) : Option UInt16 := (t.natural? UInt16.size).map UInt16.ofNat

/-- A number of thirty-two bits. -/
def u32? (t : Tree) : Option UInt32 := (t.natural? UInt32.size).map UInt32.ofNat

/-- A number of sixty-four bits. -/
def u64? (t : Tree) : Option UInt64 := (t.natural? UInt64.size).map UInt64.ofNat

/-- A number that a setting holds, as a value. -/
def ofNat (n : Nat) : Tree := int n

end Tree

/-- What is done with a list that has more items than the section has fields. -/
inductive Surplus where
  | ignored
  | refused
  deriving DecidableEq, Repr

/-- The fields of a section. -/
inductive Section where
  /-- Each under its key; keys that no field has are ignored. -/
  | keyed (entries : Entries)
  /-- One after the other. -/
  | placed (items : List Tree)

namespace Section

/-- The fields of a value that stands for a section of `width` fields. -/
def ofTree? (surplus : Surplus) (width : Nat) : Tree → Option Section
  | .table entries => some (keyed entries)
  | .list items =>
    if surplus = .refused ∧ width < items.length then none else some (placed items)
  | _ => none

/-- The field with the given place and key. -/
def field? (place : Nat) (key : Text) : Section → Option Tree
  | keyed entries => find? key entries
  | placed items => items[place]?

/-- The value of a field, which is `absent` where there is no such field. -/
def get {α : Type} (place : Nat) (key : Text) (absent : α) (read? : Tree → Option α)
    (s : Section) : Option α :=
  match s.field? place key with
  | none => some absent
  | some t => read? t

end Section

end AnidbClient.Settings

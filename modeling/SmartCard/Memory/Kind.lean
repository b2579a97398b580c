import SmartCard.Context.Id

/-!
# Kinds of arrays

An array has a lifetime, which says when its contents are forgotten, and an element kind, which
says what an element is, how many bytes it is charged, and how many cells it takes in the store.
Handles to arrays are plain values: holding one gives no right to use it.
-/

set_option autoImplicit false
set_option relaxedAutoImplicit false

namespace SmartCard

/-- When the contents of an array are forgotten: never, when the card is reset, or when its applet
is deselected and when the card is reset. -/
inductive Lifetime where
  | persistent
  | clearOnReset
  | clearOnDeselect
  deriving DecidableEq, Repr

namespace Lifetime

/-- The name of a lifetime in messages. -/
def name : Lifetime → String
  | .persistent => "Persistent"
  | .clearOnReset => "ClearOnReset"
  | .clearOnDeselect => "ClearOnDeselect"

/-- Whether a reset forgets the contents. -/
def isTransient : Lifetime → Bool
  | .persistent => false
  | .clearOnReset => true
  | .clearOnDeselect => true

end Lifetime

/-- A number of bytes for each lifetime. -/
structure PerLifetime where
  persistent : Nat
  clearOnReset : Nat
  clearOnDeselect : Nat
  deriving DecidableEq, Repr

namespace PerLifetime

/-- The number for a lifetime. -/
def get (numbers : PerLifetime) : Lifetime → Nat
  | .persistent => numbers.persistent
  | .clearOnReset => numbers.clearOnReset
  | .clearOnDeselect => numbers.clearOnDeselect

/-- The numbers given by a function. -/
def ofFn (number : Lifetime → Nat) : PerLifetime :=
  ⟨number .persistent, number .clearOnReset, number .clearOnDeselect⟩

@[simp]
theorem get_ofFn (number : Lifetime → Nat) (lifetime : Lifetime) :
    (ofFn number).get lifetime = number lifetime := by
  cases lifetime <;> rfl

/-- Numbers that agree for every lifetime are the same. -/
theorem ext_get {first second : PerLifetime}
    (hget : ∀ lifetime, first.get lifetime = second.get lifetime) : first = second := by
  cases first
  cases second
  rw [mk.injEq]
  exact ⟨hget .persistent, hget .clearOnReset, hget .clearOnDeselect⟩

end PerLifetime

/-- A handle to an array: its number and the context that owned it when it was made. -/
structure ArrayRef where
  id : Nat
  owner : ContextId
  deriving DecidableEq, Repr

/-- What the elements of an array are. -/
inductive ElementKind where
  | byte
  | short
  | boolean
  | object
  deriving DecidableEq, Repr

namespace ElementKind

/-- The name of a kind in messages. -/
def name : ElementKind → String
  | .byte => "Byte"
  | .short => "Short"
  | .boolean => "Boolean"
  | .object => "Object"

/-- How many cells an element takes. -/
def cellWidth : ElementKind → Nat
  | .short => 2
  | _ => 1

/-- How many bytes an element is charged. -/
def elementSize : ElementKind → Nat
  | .byte | .boolean => 1
  | .short | .object => 2

/-- The elements of a kind: bytes, signed 16-bit numbers, truth values, or handles that may be
absent. -/
def Value : ElementKind → Type
  | .byte => UInt8
  | .short => Int16
  | .boolean => Bool
  | .object => Option ArrayRef

end ElementKind

end SmartCard

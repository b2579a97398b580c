import SmartCard.Aid
import SmartCard.Memory.Kind

/-!
# The table of contexts

The table lists the contexts in use with the applets bound to them, and what each one exports.
Context numbers count up to 65534 and are never used twice; the card's own context is always
there. A context that is removed takes its exports with it.
-/

set_option autoImplicit false
set_option relaxedAutoImplicit false

namespace SmartCard

/-- An array offered to other contexts: to the applet with one identifier, or to every one. -/
structure Export where
  array : ArrayRef
  client : Option Aid
  deriving DecidableEq

structure ContextTable where
  /-- The contexts with the identifiers bound to them, the newest first. -/
  contexts : List (ContextId × Option Aid)
  /-- The exports under their context and parameter. -/
  exports : List ((ContextId × UInt8) × Export)
  /-- The number of the next context. -/
  nextId : Nat
  deriving DecidableEq

namespace ContextTable

/-- The number that no context gets. -/
def idLimit : Nat := 65535

/-- Only the card's own context. -/
def initial : ContextTable :=
  ⟨[(.system, none)], [], 1⟩

/-- Makes a context, unless the numbers are used up. -/
def create (table : ContextTable) : Option (ContextId × ContextTable) :=
  if table.nextId < idLimit then
    some (⟨table.nextId⟩, { table with
      contexts := (⟨table.nextId⟩, none) :: table.contexts
      nextId := table.nextId + 1 })
  else none

/-- Binds an applet to a context; a context that is not in the table stays out. -/
def bind (table : ContextTable) (context : ContextId) (aid : Aid) : ContextTable :=
  { table with contexts := table.contexts.map fun entry ↦
      if entry.1 = context then (entry.1, some aid) else entry }

/-- The identifier of the applet bound to a context. -/
def aidOf (table : ContextTable) (context : ContextId) : Option Aid :=
  (table.contexts.lookup context).join

/-- The oldest context whose applet has exactly these bytes as its identifier. -/
def findByAid (table : ContextTable) (bytes : List UInt8) : Option ContextId :=
  (table.contexts.reverse.find? fun entry ↦ entry.2.any (·.bytes == bytes)).map (·.1)

/-- Whether a context is in the table. -/
def contains (table : ContextTable) (context : ContextId) : Bool :=
  (table.contexts.lookup context).isSome

/-- Removes a context and its exports. The card's own context stays. -/
def remove (table : ContextTable) (context : ContextId) : ContextTable :=
  if context.isSystem then table
  else { table with
    contexts := table.contexts.filter fun entry ↦ entry.1 ≠ context
    exports := table.exports.filter fun entry ↦ entry.1.1 ≠ context }

/-- Offers an array under a parameter, in place of what was offered there before. -/
def offer (table : ContextTable) (server : ContextId) (parameter : UInt8) (array : ArrayRef)
    (client : Option Aid) : ContextTable :=
  { table with exports :=
      ((server, parameter), ⟨array, client⟩) ::
        table.exports.filter fun entry ↦ entry.1 ≠ (server, parameter) }

/-- The array that a context offers under a parameter to a client. -/
def lookupExport (table : ContextTable) (server : ContextId) (parameter : UInt8)
    (client : Option Aid) : Option ArrayRef :=
  match table.exports.lookup (server, parameter) with
  | none => none
  | some offered =>
    if offered.client.isNone || offered.client == client then some offered.array else none

end ContextTable

end SmartCard

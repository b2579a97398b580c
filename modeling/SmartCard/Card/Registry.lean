import SmartCard.Applet.Basic

/-!
# The registry of applets

The registry lists the installed applets in the order of installation, which is also the order in
which a selection by the beginning of an identifier looks for them.
-/

set_option autoImplicit false
set_option relaxedAutoImplicit false

namespace SmartCard

/-- One installed applet. -/
structure Registration (σ : Type) where
  aid : Aid
  context : ContextId
  params : InstallParams
  applet : Applet σ

structure Registry (σ : Type) where
  /-- The installed applets, the oldest first. -/
  entries : List (Registration σ)
  capacity : Nat

namespace Registry

variable {σ : Type}

/-- No applets, and room for some. -/
def empty (capacity : Nat) : Registry σ :=
  ⟨[], capacity⟩

/-- Whether there is no room left. -/
def isFull (registry : Registry σ) : Bool :=
  registry.capacity ≤ registry.entries.length

/-- The applet with exactly these bytes as its identifier. -/
def find? (registry : Registry σ) (bytes : List UInt8) : Option (Registration σ) :=
  registry.entries.find? (·.aid.bytes == bytes)

/-- The applet that a selection names: the one whose identifier is given, or else the oldest one
whose identifier begins with what is given. -/
def resolve? (registry : Registry σ) (bytes : List UInt8) : Option (Registration σ) :=
  (registry.find? bytes).or (registry.entries.find? (·.aid.startsWith bytes))

/-- The applet in a context. -/
def inContext? (registry : Registry σ) (context : ContextId) : Option (Registration σ) :=
  registry.entries.find? (·.context == context)

/-- Adds an applet, unless there is no room or its identifier is taken. -/
def insert (registry : Registry σ) (entry : Registration σ) :
    Except RegistryError (Registry σ) :=
  if registry.isFull then .error (.registryFull registry.capacity)
  else if (registry.find? entry.aid.bytes).isSome then .error (.duplicateAid entry.aid)
  else .ok { registry with entries := registry.entries ++ [entry] }

/-- Removes the applet in a context. -/
def remove (registry : Registry σ) (context : ContextId) : Registry σ :=
  { registry with entries := registry.entries.eraseP (·.context == context) }

/-- The identifiers of the installed applets, the oldest first. -/
def aids (registry : Registry σ) : List Aid :=
  registry.entries.map (·.aid)

end Registry

end SmartCard

import SmartCard.Context.Id

/-!
# Logical channels

Channel 0 is the basic channel and always open; the others are opened and closed. An open channel
has at most one applet selected on it, named by its context, and keeps the bytes of a response
that did not fit into the reply.
-/

set_option autoImplicit false
set_option relaxedAutoImplicit false

namespace SmartCard

structure Channel where
  isOpen : Bool
  selected : Option ContextId
  pending : List UInt8
  deriving DecidableEq, Repr

namespace Channel

/-- A closed channel. -/
def closed : Channel :=
  ⟨false, none, []⟩

/-- An open channel with nothing selected and nothing pending. -/
def opened : Channel :=
  ⟨true, none, []⟩

end Channel

structure ChannelTable where
  channels : List Channel
  deriving DecidableEq, Repr

namespace ChannelTable

/-- A table of `count` channels, at least one, with only the basic channel open. -/
def initial (count : Nat) : ChannelTable :=
  ⟨.opened :: List.replicate (count - 1) .closed⟩

/-- The number of channels, open or not. -/
def count (table : ChannelTable) : Nat :=
  table.channels.length

/-- One channel put through a function. -/
def modify (table : ChannelTable) (channel : Nat) (change : Channel → Channel) : ChannelTable :=
  ⟨table.channels.modify channel change⟩

/-- Whether a channel is there and open. -/
def isOpen (table : ChannelTable) (channel : Nat) : Bool :=
  table.channels[channel]?.any (·.isOpen)

/-- The context whose applet is selected on a channel. -/
def selected (table : ChannelTable) (channel : Nat) : Option ContextId :=
  table.channels[channel]?.bind (·.selected)

/-- The bytes that wait on a channel. -/
def pending (table : ChannelTable) (channel : Nat) : List UInt8 :=
  (table.channels[channel]?.map (·.pending)).getD []

/-- The numbers of the channels of a given sort, in order. -/
def channelsWhere (table : ChannelTable) (property : Channel → Bool) : List Nat :=
  (table.channels.zipIdx.filter fun entry ↦ property entry.1).map (·.2)

/-- The open channels, in order. -/
def openChannels (table : ChannelTable) : List Nat :=
  table.channelsWhere (·.isOpen)

/-- The channels on which a context's applet is selected, in order. -/
def channelsOf (table : ChannelTable) (context : ContextId) : List Nat :=
  table.channelsWhere (·.selected == some context)

/-- Whether a context's applet is selected on a channel other than the given one. -/
def activeElsewhere (table : ChannelTable) (context : ContextId) (channel : Nat) : Bool :=
  (table.channelsOf context).any (· ≠ channel)

/-- The lowest closed channel. -/
def lowestClosed? (table : ChannelTable) : Option Nat :=
  table.channels.findIdx? fun channel ↦ !channel.isOpen

/-- Marks a channel open. -/
def markOpen (table : ChannelTable) (channel : Nat) : ChannelTable :=
  table.modify channel fun slot ↦ { slot with isOpen := true }

/-- Opens the lowest closed channel. -/
def openLowest (table : ChannelTable) : Option (Nat × ChannelTable) :=
  table.lowestClosed?.map fun channel ↦ (channel, table.markOpen channel)

/-- Opens a channel, if it is there and closed. -/
def openAt (table : ChannelTable) (channel : Nat) : Option ChannelTable :=
  if channel < table.count ∧ !table.isOpen channel then some (table.markOpen channel) else none

/-- Closes a channel. The basic channel stays as it is. -/
def close (table : ChannelTable) (channel : Nat) : ChannelTable :=
  if channel = 0 then table else table.modify channel fun _ ↦ .closed

/-- Notes which context's applet is selected on a channel. -/
def setSelected (table : ChannelTable) (channel : Nat) (context : Option ContextId) :
    ChannelTable :=
  table.modify channel fun slot ↦ { slot with selected := context }

/-- Leaves bytes to wait on a channel. -/
def setPending (table : ChannelTable) (channel : Nat) (bytes : List UInt8) : ChannelTable :=
  table.modify channel fun slot ↦ { slot with pending := bytes }

/-- The state after power-up: only the basic channel open, nothing selected, nothing pending. -/
def reset (table : ChannelTable) : ChannelTable :=
  initial table.count

end ChannelTable

end SmartCard

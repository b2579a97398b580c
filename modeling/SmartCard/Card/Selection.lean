import SmartCard.Card.Basic

/-!
# Selection and channels

Selecting an applet first deselects whatever is on the channel, even the same applet, and then
asks the applet whether it accepts. What an applet loses by deselection is forgotten once it is
selected on no channel any more.
-/

set_option autoImplicit false
set_option relaxedAutoImplicit false

namespace SmartCard.Card

variable {σ : Type}

/-- Deselects the applet on a channel, if there is one. Its code runs after the selection is gone
and cannot prevent that. -/
def deselect (card : Card σ) (channel : Nat) : Card σ :=
  match card.channels.selected channel with
  | none => card
  | some context =>
    let cleared := card.setSelected channel none
    let told := match cleared.registry.inContext? context with
      | some entry => (cleared.activate ⟨context, channel, false⟩ entry.applet.deselect).2
      | none => cleared
    let settled := told.settle
    if (settled.channels.channelsOf context).isEmpty then settled.clearOnDeselect context
    else settled

/-- Leaves a channel empty after its applet refused to be selected. -/
def refuseSelection (card : Card σ) (channel : Nat) (context : ContextId) : Card σ :=
  let cleared := card.setSelected channel none
  if cleared.channels.activeElsewhere context channel then cleared
  else cleared.clearOnDeselect context

/-- Selects the applet in a context on a channel. An applet that is selected elsewhere and not
meant for several channels is refused before anything happens. -/
def selectContext (card : Card σ) (channel : Nat) (context : ContextId) :
    Except StatusWord Unit × Card σ :=
  match card.registry.inContext? context with
  | none => (.error .fileNotFound, card)
  | some entry =>
    if !entry.applet.multiSelectable && card.channels.activeElsewhere context channel then
      (.error .conditionsNotSatisfied, card)
    else
      let prepared := (card.deselect channel).setSelected channel (some context)
      let (ending, asked) := prepared.activate ⟨context, channel, true⟩ entry.applet.select
      let settled := asked.settle
      match ending with
      | .value true => (.ok (), settled)
      | _ => (.error .appletSelectFailed, settled.refuseSelection channel context)

/-- Selects an applet by its identifier on an open channel, and says whether that worked. -/
def select (card : Card σ) (aid : Aid) (channel : Nat) : Bool × Card σ :=
  match card.registry.find? aid.bytes with
  | none => (false, card)
  | some entry =>
    if card.channels.isOpen channel then
      match card.selectContext channel entry.context with
      | (.ok (), card) => (true, card)
      | (.error _, card) => (false, card)
    else (false, card)

/-- The channel to open: the one asked for or else the lowest closed one, opened in the table. -/
def reserveChannel (channels : ChannelTable) (requested : Option Nat) :
    Except StatusWord (Nat × ChannelTable) :=
  match requested with
  | none =>
    match channels.openLowest with
    | some opened => .ok opened
    | none => .error .functionNotSupported
  | some channel =>
    if channels.count ≤ channel then .error .logicalChannelNotSupported
    else match channels.openAt channel with
      | some opened => .ok (channel, opened)
      | none => .error .incorrectParameters

/-- Opens a channel on behalf of an open one, `origin`. If that is not the basic channel, its
applet is selected on the new channel too, and the new channel is closed again if that fails. -/
def openChannel (card : Card σ) (origin : Nat) (requested : Option Nat) :
    Except StatusWord Nat × Card σ :=
  if !card.channels.isOpen origin || card.channels.count == 1 then
    (.error .logicalChannelNotSupported, card)
  else
    match reserveChannel card.channels requested with
    | .error word => (.error word, card)
    | .ok (channel, channels) =>
      let opened := { card with channels }
      match (if origin = 0 then none else opened.channels.selected origin) with
      | none => (.ok channel, opened)
      | some context =>
        match opened.selectContext channel context with
        | (.ok (), selected) => (.ok channel, selected)
        | (.error word, failed) =>
          (.error word, { failed with channels := failed.channels.close channel })

/-- Closes an open channel other than the basic one; its applet is deselected first. -/
def closeChannel (card : Card σ) (channel : Nat) : Except StatusWord Unit × Card σ :=
  if channel = 0 ∨ !card.channels.isOpen channel then (.error .incorrectParameters, card)
  else
    let deselected := card.deselect channel
    (.ok (), { deselected with channels := deselected.channels.close channel })

end SmartCard.Card

import SmartCard.Proofs.Card.Operation
import SmartCard.Proofs.Card.Seating

/-!
# Stages of an operation

An operation is a few stages, one after another: a channel is reserved, left, entered or shut, bytes
are left to wait, an applet handles a command, memory is changed. `Card.stages` lists those that an
operation goes through, `Card.perform` is the card after one of them, and performing them all is the
operation (`Card.foldl_stages`). Few stages are not about channels alone, and each of them belongs
to one kind of operation (`Card.comprises_of_mem`).

A stage says on which channel it happens and which code runs in it, so a channel changes only in the
stages that are about it: `Card.pending_perform`, `Card.selected_perform`.
-/

set_option autoImplicit false
set_option relaxedAutoImplicit false

namespace SmartCard

/-- One stage of what an operation does to a card. -/
inductive Card.Stage (σ : Type) : Type 1 where
  | wait (channel : Nat) (bytes : List UInt8)
  | reserve (channel : Nat)
  | shut (channel : Nat)
  | leave (channel : Nat)
  | enter (channel : Nat) (entry : Registration σ)
  | handle (context : ContextId) (command : Command) (selecting : Bool)
  | install (aid : Aid) (data : List UInt8) (factory : Factory σ)
  | expel (entry : Registration σ)
  | inspect {α : Type} (aid : Aid) (program : Program (services σ) α)
  | reset
  | adjust (change : TearInjector → TearInjector)
  | tell (host : σ)

namespace Card

variable {σ α : Type}

/-- Seats an applet on a channel that has been left, and asks it whether it accepts. -/
def seat (card : Card σ) (channel : Nat) (entry : Registration σ) :
    Except StatusWord Unit × Card σ :=
  let prepared := card.setSelected channel (some entry.context)
  let (ending, asked) := prepared.activate ⟨entry.context, channel, true⟩ entry.applet.select
  match ending with
  | .value true => (.ok (), asked.settle)
  | _ => (.error .appletSelectFailed, asked.settle.refuseSelection channel entry.context)

/-- The card without an applet that has been told to leave. -/
def evict (card : Card σ) (context : ContextId) : Card σ :=
  Card.discardContext { card with registry := card.registry.remove context } context

/-- Lets an applet that has been deselected everywhere run once more, and removes it. -/
def expel (card : Card σ) (entry : Registration σ) : Card σ :=
  (card.activate ⟨entry.context, 0, false⟩ entry.applet.uninstall).2.settle.evict entry.context

/-- The card after a stage. -/
def perform (card : Card σ) : Stage σ → Card σ
  | .wait channel bytes => { card with channels := card.channels.setPending channel bytes }
  | .reserve channel => { card with channels := card.channels.markOpen channel }
  | .shut channel => { card with channels := card.channels.close channel }
  | .leave channel => card.deselect channel
  | .enter channel entry => (card.seat channel entry).2
  | .handle context command selecting =>
    (card.process command.channel context command selecting).2
  | .install aid data factory => (card.install aid data factory).2
  | .expel entry => card.expel entry
  | .inspect aid program => (card.inspect aid program).2
  | .reset => card.reset
  | .adjust change => card.mapTear change
  | .tell host => { card with host }

/-! ### The stages of every operation -/

/-- Whether an applet is refused on a channel because it is selected on another one and not meant
for several. -/
def isBusy (card : Card σ) (channel : Nat) (entry : Registration σ) : Bool :=
  !entry.applet.multiSelectable && card.channels.activeElsewhere entry.context channel

def selectContextStages (card : Card σ) (channel : Nat) (context : ContextId) : List (Stage σ) :=
  match card.registry.inContext? context with
  | none => []
  | some entry => if card.isBusy channel entry then [] else [.leave channel, .enter channel entry]

def selectStages (card : Card σ) (aid : Aid) (channel : Nat) : List (Stage σ) :=
  match card.registry.find? aid.bytes with
  | none => []
  | some entry =>
    if card.channels.isOpen channel then card.selectContextStages channel entry.context else []

/-- A channel reserved for an applet that is refused there is shut again. -/
def openChannelStages (card : Card σ) (origin : Nat) (requested : Option Nat) : List (Stage σ) :=
  if !card.channels.isOpen origin || card.channels.count == 1 then []
  else
    match reserveChannel card.channels requested with
    | .error _ => []
    | .ok (channel, channels) =>
      let opened := { card with channels }
      match (if origin = 0 then none else opened.channels.selected origin) with
      | none => [.reserve channel]
      | some context =>
        .reserve channel :: opened.selectContextStages channel context ++
          match (opened.selectContext channel context).1 with
          | .ok () => []
          | .error _ => [.shut channel]

def closeChannelStages (card : Card σ) (channel : Nat) : List (Stage σ) :=
  if channel = 0 ∨ !card.channels.isOpen channel then [] else [.leave channel, .shut channel]

/-- An applet leaves all its channels before it is expelled. -/
def uninstallStages (card : Card σ) (aid : Aid) : List (Stage σ) :=
  match card.registry.find? aid.bytes with
  | none => []
  | some entry => (card.channels.channelsOf entry.context).map .leave ++ [.expel entry]

def manageChannelStages (card : Card σ) (command : Command) : List (Stage σ) :=
  let named := command.p2.toNat
  if command.p1 = manageOpen then
    card.openChannelStages command.channel (if named = 0 then none else some named)
  else if command.p1 = manageClose then
    card.closeChannelStages (if named = 0 then command.channel else named)
  else []

def routeSelectionStages (card : Card σ) (channel : Nat) (command : Command) : List (Stage σ) :=
  match card.registry.resolve? command.data with
  | none => []
  | some entry => card.selectContextStages channel entry.context

/-- A command that reaches its channel takes the bytes that wait there; what it does not fetch of
them goes on waiting. -/
def routeStages (card : Card σ) (command : Command) : List (Stage σ) :=
  let channel := command.channel
  if command.classByte = invalidClass then []
  else if !card.channels.isOpen channel then []
  else
    let pending := card.channels.pending channel
    let taken := { card with channels := card.channels.setPending channel [] }
    if isInstruction command Command.getResponseInstruction && !pending.isEmpty then
      [.wait channel (pending.drop command.accepted)]
    else if isInstruction command Command.manageChannelInstruction then
      .wait channel [] :: taken.manageChannelStages command
    else if isInstruction command Command.selectInstruction && command.p1 == selectByName then
      .wait channel [] :: taken.routeSelectionStages channel command
    else [.wait channel []]

def dispatchStages (card : Card σ) (command : Command) : List (Stage σ) :=
  card.routeStages command ++
    match (card.route command).1 with
    | .ok (.handled context selecting) => [.handle context command selecting]
    | _ => []

def transmitStages (card : Card σ) (raw : List UInt8) : List (Stage σ) :=
  match Command.parse raw card.config.extendedLength with
  | .error _ => []
  | .ok command => card.dispatchStages command

/-- The stages of an operation, in order. -/
def stages (card : Card σ) : Operation σ → List (Stage σ)
  | .transmit raw => card.transmitStages raw
  | .select aid channel => card.selectStages aid channel
  | .deselect channel => [.leave channel]
  | .openChannel origin requested => card.openChannelStages origin requested
  | .closeChannel channel => card.closeChannelStages channel
  | .install aid data factory => [.install aid data factory]
  | .uninstall aid => card.uninstallStages aid
  | .inspect aid program => [.inspect aid program]
  | .reset => [.reset]
  | .armTear writes => [.adjust (·.arm writes)]
  | .disarmTear => [.adjust (·.disarm)]
  | .setHost host => [.tell host]

/-! ### An operation is its stages -/

/-- The applet found in a context is registered there. -/
theorem mem_of_inContext? {registry : Registry σ} {context : ContextId} {entry : Registration σ}
    (hfound : registry.inContext? context = some entry) :
    entry ∈ registry.entries ∧ entry.context = context := by
  have hcontext := List.find?_some hfound
  exact ⟨List.mem_of_find?_eq_some hfound, eq_of_beq hcontext⟩

/-- A channel reserved has been opened. -/
theorem reserveChannel_eq_ok {channels after : ChannelTable} {requested : Option Nat}
    {channel : Nat} (hreserved : reserveChannel channels requested = .ok (channel, after)) :
    after = channels.markOpen channel ∧ channel < channels.count := by
  unfold reserveChannel at hreserved
  cases requested with
  | none =>
    dsimp only at hreserved
    cases hlowest : channels.lowestClosed? with
    | none =>
      rw [ChannelTable.openLowest, hlowest] at hreserved
      exact nomatch hreserved
    | some lowest =>
      rw [ChannelTable.openLowest, hlowest] at hreserved
      obtain ⟨rfl, rfl⟩ := Prod.mk.inj (Except.ok.inj hreserved)
      exact ⟨rfl, List.findIdx?_eq_some_iff_getElem.mp hlowest |>.1⟩
  | some named =>
    dsimp only at hreserved
    split at hreserved
    · exact nomatch hreserved
    · rename_i hcount
      rw [ChannelTable.openAt] at hreserved
      by_cases hclosed : named < channels.count ∧ (!channels.isOpen named) = true
      · rw [if_pos hclosed] at hreserved
        obtain ⟨rfl, rfl⟩ := Prod.mk.inj (Except.ok.inj hreserved)
        exact ⟨rfl, hclosed.1⟩
      · rw [if_neg hclosed] at hreserved
        exact nomatch hreserved

/-- A selection that is not refused beforehand leaves the channel and then enters it. -/
theorem selectContext_eq {card : Card σ} {channel : Nat} {context : ContextId}
    {entry : Registration σ} (hfound : card.registry.inContext? context = some entry)
    (hfree : card.isBusy channel entry = false) :
    card.selectContext channel context = (card.deselect channel).seat channel entry := by
  obtain ⟨-, rfl⟩ := mem_of_inContext? hfound
  have hnot : ¬(!entry.applet.multiSelectable &&
      card.channels.activeElsewhere entry.context channel) = true :=
    Bool.eq_false_iff.mp hfree
  unfold selectContext seat
  rw [hfound]
  dsimp only
  generalize activate _ _ entry.applet.select = outcome
  obtain ⟨(_ | _) | _, asked⟩ := outcome <;> exact if_neg hnot

/-- A selection that is refused beforehand changes nothing. -/
theorem selectContext_of_isBusy {card : Card σ} {channel : Nat} {context : ContextId}
    {entry : Registration σ} (hfound : card.registry.inContext? context = some entry)
    (hbusy : card.isBusy channel entry = true) :
    card.selectContext channel context = (.error .conditionsNotSatisfied, card) := by
  obtain ⟨-, rfl⟩ := mem_of_inContext? hfound
  unfold selectContext
  rw [hfound]
  exact if_pos hbusy

theorem foldl_selectContextStages (card : Card σ) (channel : Nat) (context : ContextId) :
    (card.selectContextStages channel context).foldl perform card =
      (card.selectContext channel context).2 := by
  unfold selectContextStages
  cases hfound : card.registry.inContext? context with
  | none =>
    unfold selectContext
    rw [hfound]
    rfl
  | some entry =>
    dsimp only
    cases hbusy : card.isBusy channel entry with
    | true =>
      rw [selectContext_of_isBusy hfound hbusy]
      rfl
    | false =>
      rw [selectContext_eq hfound hbusy]
      rfl

theorem foldl_selectStages (card : Card σ) (aid : Aid) (channel : Nat) :
    (card.selectStages aid channel).foldl perform card = (card.select aid channel).2 := by
  unfold selectStages select
  cases card.registry.find? aid.bytes with
  | none => rfl
  | some entry =>
    dsimp only
    by_cases hopen : card.channels.isOpen channel = true
    · rw [if_pos hopen, if_pos hopen, foldl_selectContextStages]
      generalize card.selectContext channel entry.context = outcome
      obtain ⟨_ | _, after⟩ := outcome <;> rfl
    · rw [if_neg hopen, if_neg hopen]
      rfl

theorem foldl_openChannelStages (card : Card σ) (origin : Nat) (requested : Option Nat) :
    (card.openChannelStages origin requested).foldl perform card =
      (card.openChannel origin requested).2 := by
  unfold openChannelStages openChannel
  by_cases hshut : (!card.channels.isOpen origin || card.channels.count == 1) = true
  · rw [if_pos hshut, if_pos hshut]
    rfl
  · rw [if_neg hshut, if_neg hshut]
    cases hreserved : reserveChannel card.channels requested with
    | error word => rfl
    | ok reserved =>
      obtain ⟨channel, channels⟩ := reserved
      obtain ⟨rfl, -⟩ := reserveChannel_eq_ok hreserved
      dsimp only
      generalize (if origin = 0 then none else _) = initial
      cases initial with
      | none => rfl
      | some context =>
        dsimp only
        have hselected := foldl_selectContextStages
          { card with channels := card.channels.markOpen channel } channel context
        rw [List.foldl_append, List.foldl_cons]
        change List.foldl perform (List.foldl perform
          { card with channels := card.channels.markOpen channel } _) _ = _
        rw [hselected]
        generalize Card.selectContext _ channel context = outcome
        obtain ⟨_ | _, after⟩ := outcome <;> rfl

theorem foldl_closeChannelStages (card : Card σ) (channel : Nat) :
    (card.closeChannelStages channel).foldl perform card = (card.closeChannel channel).2 := by
  unfold closeChannelStages closeChannel
  split <;> rfl

/-- To leave channels one after another is to deselect on them. -/
theorem foldl_leave (card : Card σ) (channels : List Nat) :
    (channels.map .leave).foldl perform card = channels.foldl deselect card :=
  List.foldl_map

theorem foldl_uninstallStages (card : Card σ) (aid : Aid) :
    (card.uninstallStages aid).foldl perform card = (card.uninstall aid).2 := by
  unfold uninstallStages uninstall
  cases card.registry.find? aid.bytes with
  | none => rfl
  | some entry =>
    dsimp only
    rw [List.foldl_append, foldl_leave]
    rfl

theorem foldl_manageChannelStages (card : Card σ) (command : Command) :
    (card.manageChannelStages command).foldl perform card = (card.manageChannel command).2 := by
  unfold manageChannelStages manageChannel
  dsimp only
  by_cases hopens : command.p1 = manageOpen
  · rw [if_pos hopens, if_pos hopens, foldl_openChannelStages]
    generalize card.openChannel command.channel _ = outcome
    obtain ⟨_ | _, after⟩ := outcome <;> rfl
  · rw [if_neg hopens, if_neg hopens]
    by_cases hcloses : command.p1 = manageClose
    · rw [if_pos hcloses, if_pos hcloses, foldl_closeChannelStages]
      generalize card.closeChannel _ = outcome
      obtain ⟨_ | _, after⟩ := outcome <;> rfl
    · rw [if_neg hcloses, if_neg hcloses]
      rfl

theorem foldl_routeSelectionStages (card : Card σ) (channel : Nat) (command : Command) :
    (card.routeSelectionStages channel command).foldl perform card =
      (card.routeSelection channel command).2 := by
  unfold routeSelectionStages routeSelection
  cases card.registry.resolve? command.data with
  | none => rfl
  | some entry =>
    dsimp only
    rw [foldl_selectContextStages]
    generalize card.selectContext channel entry.context = outcome
    obtain ⟨_ | _, after⟩ := outcome <;> rfl

/-- What a reply leaves to wait is what is not accepted, if nothing waited before. -/
theorem reply_taken (card : Card σ) (channel : Nat) (output : List UInt8) (accepted : Nat) :
    (Card.reply { card with channels := card.channels.setPending channel [] } channel output
      accepted).2 =
      { card with channels := card.channels.setPending channel (output.drop accepted) } := by
  unfold reply
  by_cases hshort : accepted < output.length
  · rw [if_pos hshort]
    dsimp only
    rw [ChannelTable.setPending_setPending]
  · rw [if_neg hshort, List.drop_eq_nil_of_le (Nat.not_lt.mp hshort)]

theorem foldl_routeStages (card : Card σ) (command : Command) :
    (card.routeStages command).foldl perform card = (card.route command).2 := by
  unfold routeStages route
  dsimp only
  by_cases hinvalid : command.classByte = invalidClass
  · rw [if_pos hinvalid, if_pos hinvalid]
    rfl
  rw [if_neg hinvalid, if_neg hinvalid]
  by_cases hshut : (!card.channels.isOpen command.channel) = true
  · rw [if_pos hshut, if_pos hshut]
    rfl
  rw [if_neg hshut, if_neg hshut]
  by_cases hfetch : (isInstruction command Command.getResponseInstruction &&
      !(card.channels.pending command.channel).isEmpty) = true
  · rw [if_pos hfetch, if_pos hfetch]
    exact (card.reply_taken command.channel _ command.accepted).symm
  rw [if_neg hfetch, if_neg hfetch]
  by_cases hmanage : isInstruction command Command.manageChannelInstruction = true
  · rw [if_pos hmanage, if_pos hmanage]
    exact foldl_manageChannelStages _ command
  rw [if_neg hmanage, if_neg hmanage]
  by_cases hselect : (isInstruction command Command.selectInstruction &&
      command.p1 == selectByName) = true
  · rw [if_pos hselect, if_pos hselect]
    exact foldl_routeSelectionStages _ command.channel command
  · rw [if_neg hselect, if_neg hselect]
    rfl

theorem foldl_dispatchStages (card : Card σ) (command : Command) :
    (card.dispatchStages command).foldl perform card = (card.dispatch command).2 := by
  unfold dispatchStages dispatch
  rw [List.foldl_append, foldl_routeStages]
  generalize card.route command = outcome
  obtain ⟨_ | _ | _, routed⟩ := outcome <;> rfl

theorem foldl_transmitStages (card : Card σ) (raw : List UInt8) :
    (card.transmitStages raw).foldl perform card = (card.transmit raw).2 := by
  unfold transmitStages transmit
  cases Command.parse raw card.config.extendedLength with
  | error word => rfl
  | ok command =>
    dsimp only
    rw [foldl_dispatchStages]
    generalize card.dispatch command = outcome
    obtain ⟨_ | _, after⟩ := outcome <;> rfl

/-- To do an operation is to perform its stages. -/
theorem foldl_stages (card : Card σ) (operation : Operation σ) :
    (card.stages operation).foldl perform card = card.next operation := by
  cases operation with
  | transmit raw => exact card.foldl_transmitStages raw
  | select aid channel => exact card.foldl_selectStages aid channel
  | openChannel origin requested => exact card.foldl_openChannelStages origin requested
  | closeChannel channel => exact card.foldl_closeChannelStages channel
  | uninstall aid => exact card.foldl_uninstallStages aid
  | deselect | install | inspect | reset | armTear | disarmTear | setHost => rfl

/-- A channel reserved was closed. -/
theorem isOpen_of_reserveChannel {channels after : ChannelTable} {requested : Option Nat}
    {channel : Nat} (hreserved : reserveChannel channels requested = .ok (channel, after)) :
    channels.isOpen channel = false := by
  unfold reserveChannel at hreserved
  cases requested with
  | none =>
    dsimp only at hreserved
    cases hlowest : channels.lowestClosed? with
    | none =>
      rw [ChannelTable.openLowest, hlowest] at hreserved
      cases hreserved
    | some lowest =>
      rw [ChannelTable.openLowest, hlowest] at hreserved
      obtain ⟨rfl, -⟩ := Prod.mk.inj (Except.ok.inj hreserved)
      obtain ⟨hbound, hclosed, -⟩ := List.findIdx?_eq_some_iff_getElem.mp hlowest
      rw [ChannelTable.isOpen, List.getElem?_eq_getElem hbound]
      exact Bool.not_eq_true' _ |>.mp hclosed
  | some named =>
    dsimp only at hreserved
    by_cases hcount : channels.count ≤ named
    · rw [if_pos hcount] at hreserved
      cases hreserved
    · rw [if_neg hcount, ChannelTable.openAt] at hreserved
      by_cases hclosed : named < channels.count ∧ (!channels.isOpen named) = true
      · rw [if_pos hclosed] at hreserved
        obtain ⟨rfl, -⟩ := Prod.mk.inj (Except.ok.inj hreserved)
        exact Bool.not_eq_true' _ |>.mp hclosed.2
      · rw [if_neg hclosed] at hreserved
        cases hreserved

/-! ### Which stages there are -/

namespace Stage

/-- Whether a stage is about channels alone. -/
def isRouting : Stage σ → Bool
  | .wait _ _ | .reserve _ | .shut _ | .leave _ | .enter _ _ => true
  | _ => false

end Stage

section Routing

variable (card : Card σ)

theorem isRouting_selectContext (channel : Nat) (context : ContextId) :
    ∀ stage ∈ card.selectContextStages channel context, stage.isRouting = true := by
  unfold selectContextStages
  cases card.registry.inContext? context with
  | none => exact List.forall_mem_nil _
  | some entry =>
    dsimp only
    split
    · exact List.forall_mem_nil _
    · exact List.forall_mem_cons.mpr ⟨rfl, List.forall_mem_singleton.mpr rfl⟩

theorem isRouting_openChannel (origin : Nat) (requested : Option Nat) :
    ∀ stage ∈ card.openChannelStages origin requested, stage.isRouting = true := by
  unfold openChannelStages
  split
  · exact List.forall_mem_nil _
  cases reserveChannel card.channels requested with
  | error word => exact List.forall_mem_nil _
  | ok reserved =>
    dsimp only
    generalize (if origin = 0 then none else _) = initial
    cases initial with
    | none => exact List.forall_mem_singleton.mpr rfl
    | some context =>
      dsimp only
      refine List.forall_mem_append.mpr
        ⟨List.forall_mem_cons.mpr ⟨rfl, isRouting_selectContext _ _ _⟩, ?_⟩
      generalize (selectContext _ reserved.1 context).1 = outcome
      cases outcome with
      | ok done => exact List.forall_mem_nil _
      | error word => exact List.forall_mem_singleton.mpr rfl

theorem isRouting_closeChannel (channel : Nat) :
    ∀ stage ∈ card.closeChannelStages channel, stage.isRouting = true := by
  unfold closeChannelStages
  split
  · exact List.forall_mem_nil _
  · exact List.forall_mem_cons.mpr ⟨rfl, List.forall_mem_singleton.mpr rfl⟩

/-- What the card does with a command before an applet handles it is about channels alone. -/
theorem isRouting_route (command : Command) :
    ∀ stage ∈ card.routeStages command, stage.isRouting = true := by
  unfold routeStages
  dsimp only
  split
  · exact List.forall_mem_nil _
  split
  · exact List.forall_mem_nil _
  split
  · exact List.forall_mem_singleton.mpr rfl
  split
  · refine List.forall_mem_cons.mpr ⟨rfl, ?_⟩
    unfold manageChannelStages
    dsimp only
    split
    · exact isRouting_openChannel _ _ _
    split
    · exact isRouting_closeChannel _ _
    · exact List.forall_mem_nil _
  split
  · refine List.forall_mem_cons.mpr ⟨rfl, ?_⟩
    unfold routeSelectionStages
    cases card.registry.resolve? command.data with
    | none => exact List.forall_mem_nil _
    | some entry => exact isRouting_selectContext _ _ _
  · exact List.forall_mem_singleton.mpr rfl

end Routing

/-- Which stages an operation may go through: those about channels alone, and of the others only
those that are its own. -/
inductive Comprises (card : Card σ) : Operation σ → Stage σ → Prop where
  | routing {operation : Operation σ} {stage : Stage σ} (hrouting : stage.isRouting = true) :
    Comprises card operation stage
  | handle {raw : List UInt8} {command : Command} {context : ContextId} {selecting : Bool}
    (hparse : Command.parse raw card.config.extendedLength = .ok command)
    (hroute : (card.route command).1 = .ok (.handled context selecting)) :
    Comprises card (.transmit raw) (.handle context command selecting)
  | install (aid : Aid) (data : List UInt8) (factory : Factory σ) :
    Comprises card (.install aid data factory) (.install aid data factory)
  | expel {aid : Aid} {entry : Registration σ}
    (hfound : card.registry.find? aid.bytes = some entry) :
    Comprises card (.uninstall aid) (.expel entry)
  | inspect {α : Type} (aid : Aid) (program : Program (services σ) α) :
    Comprises card (.inspect aid program) (.inspect aid program)
  | reset : Comprises card .reset .reset
  | armTear (writes : Nat) : Comprises card (.armTear writes) (.adjust (·.arm writes))
  | disarmTear : Comprises card .disarmTear (.adjust (·.disarm))
  | setHost (host : σ) : Comprises card (.setHost host) (.tell host)

/-- An operation goes through no other stages. -/
theorem comprises_of_mem {card : Card σ} {operation : Operation σ} {stage : Stage σ}
    (hstage : stage ∈ card.stages operation) : card.Comprises operation stage := by
  cases operation with
  | transmit raw =>
    rw [stages, transmitStages] at hstage
    cases hparse : Command.parse raw card.config.extendedLength with
    | error word =>
      rw [hparse] at hstage
      cases hstage
    | ok command =>
      rw [hparse] at hstage
      rcases List.mem_append.mp hstage with hrouted | hhandled
      · exact .routing (card.isRouting_route command stage hrouted)
      · cases hroute : (card.route command).1 with
        | error word =>
          rw [hroute] at hhandled
          cases hhandled
        | ok route =>
          rw [hroute] at hhandled
          cases route with
          | answered response => cases hhandled
          | handled context selecting =>
            obtain rfl := List.mem_singleton.mp hhandled
            exact .handle hparse hroute
  | select aid channel =>
    rw [stages, selectStages] at hstage
    cases hfound : card.registry.find? aid.bytes with
    | none =>
      rw [hfound] at hstage
      cases hstage
    | some entry =>
      rw [hfound] at hstage
      dsimp only at hstage
      split at hstage
      · exact .routing (card.isRouting_selectContext channel entry.context stage hstage)
      · cases hstage
  | openChannel origin requested =>
    exact .routing (card.isRouting_openChannel origin requested stage hstage)
  | closeChannel channel => exact .routing (card.isRouting_closeChannel channel stage hstage)
  | uninstall aid =>
    rw [stages, uninstallStages] at hstage
    cases hfound : card.registry.find? aid.bytes with
    | none =>
      rw [hfound] at hstage
      cases hstage
    | some entry =>
      rw [hfound] at hstage
      rcases List.mem_append.mp hstage with hleave | hexpel
      · obtain ⟨channel, -, rfl⟩ := List.mem_map.mp hleave
        exact .routing rfl
      · obtain rfl := List.mem_singleton.mp hexpel
        exact .expel hfound
  | deselect channel =>
    obtain rfl := List.mem_singleton.mp hstage
    exact .routing rfl
  | install aid data factory =>
    obtain rfl := List.mem_singleton.mp hstage
    exact .install aid data factory
  | inspect aid program =>
    obtain rfl := List.mem_singleton.mp hstage
    exact .inspect aid program
  | reset =>
    obtain rfl := List.mem_singleton.mp hstage
    exact .reset
  | armTear writes =>
    obtain rfl := List.mem_singleton.mp hstage
    exact .armTear writes
  | disarmTear =>
    obtain rfl := List.mem_singleton.mp hstage
    exact .disarmTear
  | setHost host =>
    obtain rfl := List.mem_singleton.mp hstage
    exact .setHost host

/-! ### What a stage does to the channels -/

theorem registry_deselect (card : Card σ) (channel : Nat) :
    (card.deselect channel).registry = card.registry := by
  unfold deselect
  cases card.channels.selected channel with
  | none => rfl
  | some context =>
    dsimp only
    cases (card.setSelected channel none).registry.inContext? context with
    | none => dsimp only; split <;> rfl
    | some entry => dsimp only; split <;> rfl

/-- Deselecting leaves the channel, whatever the applet's code does. -/
theorem channels_deselect (card : Card σ) (channel : Nat) :
    (card.deselect channel).channels = card.channels.setSelected channel none := by
  unfold deselect
  cases hselected : card.channels.selected channel with
  | none => exact (ChannelTable.setSelected_none_of_selected hselected).symm
  | some context =>
    dsimp only
    cases (card.setSelected channel none).registry.inContext? context with
    | none => dsimp only; split <;> rfl
    | some entry => dsimp only; split <;> rfl

theorem registry_deselectAll (card : Card σ) (channels : List Nat) :
    (channels.foldl Card.deselect card).registry = card.registry := by
  induction channels generalizing card with
  | nil => rfl
  | cons channel rest ih => exact (ih _).trans (card.registry_deselect channel)

theorem channels_deselectAll (card : Card σ) (channels : List Nat) :
    (channels.foldl Card.deselect card).channels =
      channels.foldl (·.setSelected · none) card.channels := by
  induction channels generalizing card with
  | nil => rfl
  | cons channel rest ih =>
    rw [List.foldl_cons, List.foldl_cons, ih, channels_deselect]

/-- An applet that is asked to be selected is selected afterwards or not; other channels stay as
they are. -/
theorem channels_seat (card : Card σ) (channel : Nat) (entry : Registration σ) :
    (card.seat channel entry).2.channels = card.channels.setSelected channel
      ((card.seat channel entry).1.toOption.map fun _ ↦ entry.context) := by
  have hrefused : ∀ asked : Card σ,
      asked.channels = card.channels.setSelected channel (some entry.context) →
      (asked.settle.refuseSelection channel entry.context).channels =
        card.channels.setSelected channel none := by
    intro asked hasked
    have hcleared : (asked.settle.setSelected channel none).channels =
        card.channels.setSelected channel none := by
      rw [← card.channels.setSelected_setSelected channel (some entry.context) none, ← hasked]
      rfl
    unfold refuseSelection
    dsimp only
    split <;> exact hcleared
  have hasked : ((card.setSelected channel (some entry.context)).activate
      ⟨entry.context, channel, true⟩ entry.applet.select).2.channels =
        card.channels.setSelected channel (some entry.context) := rfl
  unfold seat
  dsimp only
  generalize activate _ _ entry.applet.select = outcome at hasked ⊢
  obtain ⟨(_ | _) | _, asked⟩ := outcome
  · exact hrefused asked hasked
  · exact hasked
  · exact hrefused asked hasked

theorem channels_reply (card : Card σ) (channel : Nat) (output : List UInt8) (accepted : Nat) :
    (card.reply channel output accepted).2.channels =
      if accepted < output.length then
        card.channels.setPending channel (output.drop accepted)
      else card.channels := by
  unfold reply
  split <;> rfl

/-- The output of an applet that handles a command, if it brings the exchange to its end. -/
def output? (card : Card σ) (context : ContextId) (command : Command) (selecting : Bool) :
    Option (List UInt8) :=
  match card.registry.inContext? context with
  | none => none
  | some entry =>
    let (ending, _, exchange) := entry.applet.process.run.run Session.answerProcess
      (⟨⟨context, command.channel, selecting⟩, card.platform, card.host, none⟩,
        Exchange.start command card.config.bufferSize selecting)
    match outcome ending with
    | .error _ => none
    | .ok () => exchange.finish.toOption

/-- An applet that handles a command leaves what is not accepted of its output to wait. -/
theorem channels_process (card : Card σ) (context : ContextId) (command : Command)
    (selecting : Bool) :
    (card.process command.channel context command selecting).2.channels =
      (card.output? context command selecting).elim card.channels fun output ↦
        if command.accepted < output.length then
          card.channels.setPending command.channel (output.drop command.accepted)
        else card.channels := by
  unfold process output?
  cases card.registry.inContext? context with
  | none => rfl
  | some entry =>
    dsimp only
    generalize Program.run Session.answerProcess entry.applet.process.run _ = ran
    obtain ⟨ending, session, exchange⟩ := ran
    dsimp only
    cases outcome ending with
    | error error => rfl
    | ok done =>
      dsimp only
      cases exchange.finish with
      | error error => rfl
      | ok output => exact channels_reply _ _ _ _

/-- So no other channel changes, and on its own one nothing but the bytes that wait. -/
theorem channels_process_cases (card : Card σ) (context : ContextId) (command : Command)
    (selecting : Bool) :
    (card.process command.channel context command selecting).2.channels = card.channels ∨
      ∃ bytes, (card.process command.channel context command selecting).2.channels =
        card.channels.setPending command.channel bytes := by
  rw [channels_process]
  cases card.output? context command selecting with
  | none => exact .inl rfl
  | some output =>
    rw [Option.elim_some]
    split
    · exact .inr ⟨_, rfl⟩
    · exact .inl rfl

theorem channels_install (card : Card σ) (aid : Aid) (data : List UInt8) (factory : Factory σ) :
    (card.install aid data factory).2.channels = card.channels := by
  unfold install
  cases card.admitInstall aid data with
  | error error => rfl
  | ok params =>
    dsimp only
    cases card.platform.contexts.create with
    | none => rfl
    | some created =>
      obtain ⟨context, contexts⟩ := created
      have hbuilt : (Card.build { card with platform := { card.platform with contexts } } context
          params factory).2.channels = card.channels := rfl
      dsimp only
      generalize Card.build _ context params factory = outcome at hbuilt ⊢
      obtain ⟨_ | ⟨registered, applet⟩, built⟩ := outcome
      · exact hbuilt
      · dsimp only
        cases built.registry.insert _ <;> exact hbuilt

theorem channels_inspect (card : Card σ) (aid : Aid) (program : Program (services σ) α) :
    (card.inspect aid program).2.channels = card.channels := by
  unfold inspect
  cases card.registry.find? aid.bytes with
  | none => rfl
  | some entry =>
    have hasked : (card.activate ⟨entry.context, 0, false⟩ program).2.channels =
        card.channels := rfl
    dsimp only
    generalize card.activate ⟨entry.context, 0, false⟩ program = outcome at hasked ⊢
    obtain ⟨_ | _, asked⟩ := outcome <;> exact hasked

namespace Stage

/-- Whether a stage may change which bytes wait on a channel. -/
def movesBytes (channel : Nat) : Stage σ → Bool
  | .wait moved _ => moved == channel
  | .shut moved => moved == channel && moved != 0
  | .handle _ command _ => command.channel == channel
  | .reset => true
  | _ => false

/-- Whether a stage may change what is selected on a channel. -/
def reseats (channel : Nat) : Stage σ → Bool
  | .leave moved | .enter moved _ => moved == channel
  | .shut moved => moved == channel && moved != 0
  | .reset => true
  | _ => false

/-- Whether a stage may open or close a channel. -/
def toggles (channel : Nat) : Stage σ → Bool
  | .reserve moved => moved == channel
  | .shut moved => moved == channel && moved != 0
  | .reset => true
  | _ => false

end Stage

/-- Closing the basic channel or another one leaves a channel as it is. -/
theorem close_of_ne {moved channel : Nat} (hstays : (moved == channel && moved != 0) = false)
    (table : ChannelTable) :
    (table.close moved).channels[channel]? = table.channels[channel]? := by
  unfold ChannelTable.close
  by_cases hbasic : moved = 0
  · rw [if_pos hbasic]
  · have hother : moved ≠ channel := by
      intro hsame
      rw [beq_iff_eq.mpr hsame, bne_iff_ne.mpr hbasic] at hstays
      exact nomatch hstays
    rw [if_neg hbasic, ChannelTable.getElem?_modify]
    simp only [if_neg hother, Option.map_id']

/-- The bytes on a channel go on waiting in a stage that is not about them. -/
theorem pending_perform {stage : Stage σ} {channel : Nat}
    (hstays : stage.movesBytes channel = false) (card : Card σ) :
    (card.perform stage).channels.pending channel = card.channels.pending channel := by
  cases stage with
  | wait moved bytes =>
    exact ChannelTable.pending_setPending_of_ne _ (ne_of_beq_false hstays) bytes
  | reserve moved => exact ChannelTable.pending_markOpen _ moved channel
  | shut moved => rw [perform, ChannelTable.pending, close_of_ne hstays, ChannelTable.pending]
  | leave moved => rw [perform, channels_deselect, ChannelTable.pending_setSelected]
  | enter moved entry => rw [perform, channels_seat, ChannelTable.pending_setSelected]
  | handle context command selecting =>
    rw [perform]
    rcases card.channels_process_cases context command selecting with hsame | ⟨_, hmoved⟩
    · rw [hsame]
    · rw [hmoved, ChannelTable.pending_setPending_of_ne _ (ne_of_beq_false hstays)]
  | install aid data factory => rw [perform, channels_install]
  | inspect aid program => rw [perform, channels_inspect]
  | reset => exact Bool.noConfusion hstays
  | expel | adjust | tell => rfl

/-- What is selected on a channel stays so in a stage that is not about it. -/
theorem selected_perform {stage : Stage σ} {channel : Nat} (hstays : stage.reseats channel = false)
    (card : Card σ) :
    (card.perform stage).channels.selected channel = card.channels.selected channel := by
  cases stage with
  | wait moved bytes => exact ChannelTable.selected_setPending _ moved channel bytes
  | reserve moved => exact ChannelTable.selected_markOpen _ moved channel
  | shut moved => rw [perform, ChannelTable.selected, close_of_ne hstays, ChannelTable.selected]
  | leave moved =>
    rw [perform, channels_deselect,
      ChannelTable.selected_setSelected_of_ne _ (ne_of_beq_false hstays)]
  | enter moved entry =>
    rw [perform, channels_seat, ChannelTable.selected_setSelected_of_ne _ (ne_of_beq_false hstays)]
  | handle context command selecting =>
    rw [perform]
    rcases card.channels_process_cases context command selecting with hsame | ⟨_, hmoved⟩
    · rw [hsame]
    · rw [hmoved, ChannelTable.selected_setPending]
  | install aid data factory => rw [perform, channels_install]
  | inspect aid program => rw [perform, channels_inspect]
  | reset => exact Bool.noConfusion hstays
  | expel | adjust | tell => rfl

/-- A channel stays open or closed in a stage that is not about that. -/
theorem isOpen_perform {stage : Stage σ} {channel : Nat} (hstays : stage.toggles channel = false)
    (card : Card σ) :
    (card.perform stage).channels.isOpen channel = card.channels.isOpen channel := by
  cases stage with
  | wait moved bytes => exact ChannelTable.isOpen_setPending _ moved channel bytes
  | reserve moved =>
    exact (ChannelTable.isOpen_modify _ _ _ _).trans (if_neg (ne_of_beq_false hstays))
  | shut moved => rw [perform, ChannelTable.isOpen, close_of_ne hstays, ChannelTable.isOpen]
  | leave moved => rw [perform, channels_deselect, ChannelTable.isOpen_setSelected]
  | enter moved entry => rw [perform, channels_seat, ChannelTable.isOpen_setSelected]
  | handle context command selecting =>
    rw [perform]
    rcases card.channels_process_cases context command selecting with hsame | ⟨_, hmoved⟩
    · rw [hsame]
    · rw [hmoved, ChannelTable.isOpen_setPending]
  | install aid data factory => rw [perform, channels_install]
  | inspect aid program => rw [perform, channels_inspect]
  | reset => exact Bool.noConfusion hstays
  | expel | adjust | tell => rfl

/-- A selection opens and closes no channel. -/
theorem isOpen_selectContext (card : Card σ) (channel other : Nat) (context : ContextId) :
    (card.selectContext channel context).2.channels.isOpen other = card.channels.isOpen other := by
  rw [← foldl_selectContextStages, selectContextStages]
  cases card.registry.inContext? context with
  | none => rfl
  | some entry =>
    dsimp only
    split
    · rfl
    · rw [List.foldl_cons, List.foldl_cons, List.foldl_nil, isOpen_perform rfl, isOpen_perform rfl]

end Card

end SmartCard

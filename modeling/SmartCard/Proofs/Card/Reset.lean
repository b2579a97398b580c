import SmartCard.Proofs.Card.Residence
import SmartCard.Proofs.Card.Settlement
import SmartCard.Proofs.Memory.Forgetting

/-!
# Reset

A reset forgets all that is volatile and nothing else. What it leaves is a card with the same
configuration, applets, contexts, exports and counters, the same arrays with the same grants and
persistent contents, whose transient arrays are blank, and of whose channels only the basic one is
open, with nothing selected and nothing waiting (`Card.IsReset`). No code runs.

Two cards that agree on what lasts (`Card.AgreesDurably`) therefore become the same. The state of a
card is compared as a whole (`Card.state`): the arrays and exports as functions of their numbers and
keys and the contexts to which an array is granted as a set, so that it does not count in which
order these were made. If the orders are the same too, so are the cards
(`Card.AgreesDurably.reset_eq`). Nothing has to be assumed of what a card has from its
configuration, of the bytes counted, or of the journal: the first is never changed
(`Card.IsMadeBy`), the second are those of the live arrays, and the third is empty between
operations.
-/

set_option autoImplicit false
set_option relaxedAutoImplicit false

namespace SmartCard

/-! ### What a card is made with -/

/-- No operation on memory changes the quotas. -/
theorem Store.quotas_next {store : Store} (hstore : store.WellFormed) (operation : Operation) :
    (store.next operation).heap.quotas = store.heap.quotas := by
  cases operation with
  | allocate owner lifetime kind length =>
    rw [next]
    rcases store.allocate_cases owner lifetime kind length with ⟨error, h⟩ | ⟨text, h⟩ | h
    · rw [h]
    · rw [h]
    · rw [h]
      rfl
  | release id =>
    rw [next, Heap.release]
    split <;> rfl
  | grant id client =>
    rw [next, Heap.grant]
    split <;> rfl
  | write caller write =>
    have heffect := perform_effect hstore.heap caller write
    rw [next]
    generalize (store.perform caller write).2 = after at heffect
    cases heffect <;> rfl
  | begin =>
    rw [next]
    cases hactive : store.transaction.isActive with
    | false => rw [begin_of_idle hactive]
    | true => rw [begin_of_active hactive]
  | commit =>
    rw [next]
    cases hactive : store.transaction.isActive with
    | false => rw [commit_of_idle hactive]
    | true => rw [commit_of_active hactive]
  | abort =>
    rw [next]
    cases hactive : store.transaction.isActive with
    | false => rw [abort_of_idle hactive]
    | true =>
      rw [abort_of_active hactive]
      change (List.foldr _ store.heap store.transaction.journal.entries).quotas = _
      induction store.transaction.journal.entries with
      | nil => rfl
      | cons entry rest ih => exact ih
  | releaseOwnedBy | clearOnDeselect | clearOnReset | arm | disarm => rfl

namespace ChannelTable

variable {σ : Type}

theorem isOpen_initial_iff {count channel : Nat} :
    (initial count).isOpen channel = true ↔ channel = 0 := by
  unfold isOpen initial
  cases channel with
  | zero => exact iff_of_true rfl rfl
  | succ channel =>
    rw [List.getElem?_cons_succ, List.getElem?_replicate]
    refine iff_of_false (fun hopen ↦ ?_) (Nat.succ_ne_zero channel)
    split at hopen <;> exact Bool.noConfusion hopen

theorem count_initial (count : Nat) : (initial count).count = max count 1 := by
  unfold initial ChannelTable.count
  rw [List.length_cons, List.length_replicate]
  omega

/-- Channels are opened and closed; there are never more or fewer of them. -/
theorem Change.count_eq {registry : Registry σ} {table after : ChannelTable}
    (hchange : Change registry table after) (hcount : 0 < table.count) :
    after.count = table.count := by
  cases hchange with
  | reset => exact (count_initial table.count).trans (Nat.max_eq_left hcount)
  | close channel =>
    unfold ChannelTable.close
    split
    · rfl
    · exact List.length_modify _ _ _
  | leave | take | wait | markOpen => exact List.length_modify _ _ _

end ChannelTable

namespace Card

variable {σ : Type} {card after : Card σ} {config : Config}

/-- What a card has from the configuration that it was made with, and what nothing changes. -/
structure IsMadeBy (card : Card σ) (config : Config) : Prop where
  atr_eq : config.readAtr = .ok card.atr
  quotas_eq : card.platform.store.heap.quotas = config.quotas
  count_eq : card.channels.count = max config.logicalChannels 1

/-- Nothing that happens to a card changes what it answers a reset with. -/
theorem Course.atr_eq {pieces : List (Piece σ)} (hcourse : Course card pieces after) :
    after.atr = card.atr := by
  induction hcourse with
  | trans _ _ ihfirst ihsecond => exact ihsecond.trans ihfirst
  | refl | upkeep | told | rearrange | run | abandon | install | remove => rfl

/-- Nor how many channels it has. -/
theorem Course.count_eq {pieces : List (Piece σ)} (hcourse : Course card pieces after)
    (hcount : 0 < card.channels.count) : after.channels.count = card.channels.count := by
  induction hcourse with
  | rearrange hchange => exact hchange.count_eq hcount
  | trans _ _ ihfirst ihsecond =>
    have hfirst := ihfirst hcount
    exact (ihsecond (hfirst ▸ hcount)).trans hfirst
  | refl | upkeep | told | run | abandon | install | remove => rfl

/-- Whatever happens to a card, it stays as it was made. -/
theorem IsMadeBy.course {pieces : List (Piece σ)} (hmade : card.IsMadeBy config)
    (hcoheres : card.Coheres config) (hcourse : Course card pieces after) :
    after.IsMadeBy config := by
  have hquotas := @Course.read_eq σ card after config _ (fun store ↦ store.heap.quotas)
    Store.quotas_next pieces hcourse hcoheres
  have hcount : 0 < card.channels.count := by
    rw [hmade.count_eq]
    omega
  exact ⟨hcourse.atr_eq ▸ hmade.atr_eq, hquotas.trans hmade.quotas_eq,
    (hcourse.count_eq hcount).trans hmade.count_eq⟩

/-- Every card reached is as its configuration says. -/
theorem Reachable.isMadeBy (hreach : card.Reachable) : card.IsMadeBy card.config := by
  have hboth : ∃ config, card.Coheres config ∧ card.IsMadeBy config := by
    induction hreach with
    | @ofConfig config host card hcard =>
      refine ⟨config, Coheres.ofConfig hcard, ?_⟩
      obtain ⟨atr, hatr, rfl⟩ := eq_of_ofConfig hcard
      exact ⟨hatr, rfl, ChannelTable.count_initial config.logicalChannels⟩
    | @next card _ operation _ ih =>
      obtain ⟨config, hcoheres, hmade⟩ := ih
      have hcourse := card.course_next operation
      exact ⟨config, hcoheres.course hcourse, hmade.course hcoheres hcourse⟩
  obtain ⟨config, hcoheres, hmade⟩ := hboth
  rw [hcoheres.config_eq]
  exact hmade

end Card

/-! ### The state of a card -/

/-- All state of a card, the tables as functions. The world outside the card is not part of it. -/
structure CardState (σ : Type) where
  config : Config
  atr : List UInt8
  arrays : Nat → Option ArrayState
  nextArray : Nat
  quotas : PerLifetime
  used : PerLifetime
  transaction : Transaction
  contexts : ContextId → Option (Option Aid)
  exports : ContextId × UInt8 → Option Export
  nextContext : Nat
  registry : Registry σ
  channels : ChannelTable

namespace Card

variable {σ : Type} {card first second : Card σ}

def state (card : Card σ) : CardState σ where
  config := card.config
  atr := card.atr
  arrays := fun id ↦ (card.platform.store.heap.find? id).map Region.state
  nextArray := card.platform.store.heap.nextId
  quotas := card.platform.store.heap.quotas
  used := card.platform.store.heap.used
  transaction := card.platform.store.transaction
  contexts := fun context ↦ card.platform.contexts.contexts.lookup context
  exports := fun key ↦ card.platform.contexts.exports.lookup key
  nextContext := card.platform.contexts.nextId
  registry := card.registry
  channels := card.channels

/-- Whether two cards agree on what lasts: their configuration, the applets installed, contexts and
exports, the arrays with their grants and persistent contents, the tear injector and the counters.
They may differ in what transient arrays hold and in all that channels keep. -/
structure AgreesDurably (first second : Card σ) : Prop where
  config_eq : first.config = second.config
  entries_eq : first.registry.entries = second.registry.entries
  contexts_eq : ∀ context, first.platform.contexts.contexts.lookup context =
    second.platform.contexts.contexts.lookup context
  exports_eq : ∀ key, first.platform.contexts.exports.lookup key =
    second.platform.contexts.exports.lookup key
  nextContext_eq : first.platform.contexts.nextId = second.platform.contexts.nextId
  heap : first.platform.store.heap.AgreesLastingly second.platform.store.heap
  tear_eq : first.platform.store.transaction.tear = second.platform.store.transaction.tear
  commits_eq : first.platform.store.transaction.commits =
    second.platform.store.transaction.commits
  aborts_eq : first.platform.store.transaction.aborts = second.platform.store.transaction.aborts

/-- Whether two cards keep arrays, grants and exports in the same order. -/
structure KeepsOrder (first second : Card σ) : Prop where
  keys_eq : first.platform.store.heap.regions.map Prod.fst =
    second.platform.store.heap.regions.map Prod.fst
  grants_eq : ∀ id, (first.platform.store.heap.find? id).map (·.grants) =
    (second.platform.store.heap.find? id).map (·.grants)
  exports_eq : first.platform.contexts.exports = second.platform.contexts.exports

/-- Whether a card is what a reset should make of an earlier one. -/
structure IsReset (card after : Card σ) : Prop where
  /-- Every transient array is zero or empty. -/
  blank : ∀ {id region}, after.platform.store.heap.find? id = some region →
    region.lifetime.isTransient = true → region.cells.IsBlank
  isOpen_iff : ∀ channel, after.channels.isOpen channel = true ↔ channel = 0
  selected_eq : ∀ channel, after.channels.selected channel = none
  pending_eq : ∀ channel, after.channels.pending channel = []
  count_eq : after.channels.count = card.channels.count
  /-- The same arrays are live, with the same owners, lifetimes, kinds and lengths. -/
  outline_eq : after.platform.store.heap.outline = card.platform.store.heap.outline
  contents_eq : ∀ id,
    after.platform.store.heap.contents? id = card.platform.store.heap.contents? id
  grants_eq : ∀ id, (after.platform.store.heap.find? id).map (·.grants) =
    (card.platform.store.heap.find? id).map (·.grants)
  nextId_eq : after.platform.store.heap.nextId = card.platform.store.heap.nextId
  quotas_eq : after.platform.store.heap.quotas = card.platform.store.heap.quotas
  used_eq : after.platform.store.heap.used = card.platform.store.heap.used
  transaction_eq : after.platform.store.transaction = card.platform.store.transaction
  contexts_eq : after.platform.contexts = card.platform.contexts
  registry_eq : after.registry = card.registry
  config_eq : after.config = card.config
  atr_eq : after.atr = card.atr
  host_eq : after.host = card.host

/-! ### What a reset does -/

/-- Between operations there is nothing to undo. -/
theorem reset_of_rests (hrests : card.platform.store.Rests) :
    card.reset = { card with
      platform := { card.platform with
        store := { card.platform.store with heap := card.platform.store.heap.clearOnReset } }
      channels := card.channels.reset } := by
  have hsettled : card.settle = card := by
    rw [settle, Platform.settle, hrests.settle_eq]
  rw [reset, hsettled]
  rfl

/-- A reset makes of every card reached what it should. -/
theorem isReset_reset (hreach : card.Reachable) : card.IsReset card.reset := by
  have hresembles := card.platform.store.heap.resembles_clearOnReset
  have hcount : 0 < card.channels.count := by
    rw [hreach.isMadeBy.count_eq]
    omega
  rw [reset_of_rests hreach.rests]
  refine ⟨fun {id region} hfind htransient ↦ ?_, fun channel ↦ ?_, fun channel ↦ ?_,
    ChannelTable.pending_initial _, ?_, hresembles.outline_eq, hresembles.contents_eq,
    fun id ↦ ?_, rfl, rfl, rfl, rfl, rfl, rfl, rfl, rfl, rfl⟩
  · change card.platform.store.heap.clearOnReset.find? id = some region at hfind
    rw [Heap.find?_clearOnReset] at hfind
    obtain ⟨former, -, rfl⟩ := Option.map_eq_some_iff.mp hfind
    refine Region.isBlank_forgotten ?_
    rw [← (Region.eq_of_original_eq former.original_forgotten).2.1]
    exact htransient
  · exact ChannelTable.isOpen_initial_iff
  · exact ChannelTable.selected_initial _ _
  · exact (ChannelTable.count_initial _).trans (Nat.max_eq_left hcount)
  · change (card.platform.store.heap.clearOnReset.find? id).map _ = _
    rw [Heap.find?_clearOnReset, Option.map_map]
    exact Option.map_congr fun region _ ↦ region.grants_forgotten

/-- A card after a reset agrees with the card before on what lasts. -/
theorem IsReset.agreesDurably {after : Card σ} (hreset : card.IsReset after) :
    card.AgreesDurably after where
  config_eq := hreset.config_eq.symm
  entries_eq := congrArg Registry.entries hreset.registry_eq.symm
  contexts_eq := fun _ ↦ by rw [hreset.contexts_eq]
  exports_eq := fun _ ↦ by rw [hreset.contexts_eq]
  nextContext_eq := by rw [hreset.contexts_eq]
  heap := {
    nextId_eq := hreset.nextId_eq.symm
    original_eq := fun id ↦ by
      rw [← Heap.lookup_outline, ← Heap.lookup_outline, hreset.outline_eq]
    granted_iff := fun {id region other} hregion hother context ↦ by
      have hgrants := hreset.grants_eq id
      rw [hregion, hother] at hgrants
      have hsame : other.grants = region.grants := Option.some.inj hgrants
      rw [hsame]
    contents_eq := fun id ↦ (hreset.contents_eq id).symm }
  tear_eq := by rw [hreset.transaction_eq]
  commits_eq := by rw [hreset.transaction_eq]
  aborts_eq := by rw [hreset.transaction_eq]

/-! ### Two cards -/

/-- Cards reached that agree on what lasts have the same transaction state: none is open. -/
theorem AgreesDurably.transaction_eq (hagrees : first.AgreesDurably second)
    (hfirst : first.Reachable) (hsecond : second.Reachable) :
    first.platform.store.transaction = second.platform.store.transaction := by
  have hrests := hfirst.rests
  have hothers := hsecond.rests
  have hcapacity : first.platform.store.transaction.journal.capacity =
      second.platform.store.transaction.journal.capacity := by
    have hsame := hfirst.commitCapacity_eq.trans
      ((congrArg Config.commitCapacity hagrees.config_eq).trans hsecond.commitCapacity_eq.symm)
    exact hsame
  have hidle : first.platform.store.transaction.isActive =
      second.platform.store.transaction.isActive := by
    rw [Store.depth_eq_zero_iff.mp hrests.depth_eq, Store.depth_eq_zero_iff.mp hothers.depth_eq]
  have hjournal : first.platform.store.transaction.journal =
      second.platform.store.transaction.journal := by
    rw [hrests.journal_eq, hothers.journal_eq, hcapacity]
  have htear := hagrees.tear_eq
  have hcommits := hagrees.commits_eq
  have haborts := hagrees.aborts_eq
  generalize first.platform.store.transaction = transaction at *
  generalize second.platform.store.transaction = other at *
  cases transaction
  cases other
  exact (Transaction.mk.injEq ..).mpr ⟨hidle, hjournal, htear, hcommits, haborts⟩

/-- They have the same registry, too. -/
theorem AgreesDurably.registry_eq (hagrees : first.AgreesDurably second)
    (hfirst : first.Reachable) (hsecond : second.Reachable) : first.registry = second.registry := by
  obtain ⟨config, hcoheres⟩ := hfirst.exists_coheres
  obtain ⟨other, hothers⟩ := hsecond.exists_coheres
  have hconfig : config = other :=
    hcoheres.config_eq.symm.trans (hagrees.config_eq.trans hothers.config_eq)
  have hcapacity : first.registry.capacity = second.registry.capacity := by
    rw [hcoheres.capacity_eq, hothers.capacity_eq, hconfig]
  change Registry.mk first.registry.entries first.registry.capacity =
    Registry.mk second.registry.entries second.registry.capacity
  rw [hagrees.entries_eq, hcapacity]

/-- They were made alike. -/
theorem AgreesDurably.made_eq (hagrees : first.AgreesDurably second)
    (hfirst : first.Reachable) (hsecond : second.Reachable) :
    first.atr = second.atr ∧
      first.platform.store.heap.quotas = second.platform.store.heap.quotas ∧
      first.channels.reset = second.channels.reset := by
  have hmade := hfirst.isMadeBy
  have hothers := hsecond.isMadeBy
  rw [← hagrees.config_eq] at hothers
  exact ⟨Except.ok.inj (hmade.atr_eq.symm.trans hothers.atr_eq),
    hmade.quotas_eq.trans hothers.quotas_eq.symm,
    congrArg ChannelTable.initial (hmade.count_eq.trans hothers.count_eq.symm)⟩

/-- The state after a reset is told by what lasts. -/
theorem AgreesDurably.state_reset (hagrees : first.AgreesDurably second)
    (hfirst : first.Reachable) (hsecond : second.Reachable) :
    first.reset.state = second.reset.state := by
  have hheap := hfirst.rests.wellFormed.heap
  have hother := hsecond.rests.wellFormed.heap
  obtain ⟨hatr, hquotas, hchannels⟩ := hagrees.made_eq hfirst hsecond
  rw [reset_of_rests hfirst.rests, reset_of_rests hsecond.rests]
  exact (CardState.mk.injEq ..).mpr ⟨hagrees.config_eq, hatr,
    funext (hagrees.heap.state_eq hheap hother), hagrees.heap.nextId_eq, hquotas,
    hagrees.heap.used_eq hheap hother, hagrees.transaction_eq hfirst hsecond,
    funext hagrees.contexts_eq, funext hagrees.exports_eq, hagrees.nextContext_eq,
    hagrees.registry_eq hfirst hsecond, hchannels⟩

/-- Cards that agree on what lasts and keep it in the same order are the same after a reset, in
whatever world they are. -/
theorem AgreesDurably.reset_eq (hagrees : first.AgreesDurably second)
    (hfirst : first.Reachable) (hsecond : second.Reachable) (horder : first.KeepsOrder second) :
    first.reset = { second.reset with host := first.host } := by
  obtain ⟨hatr, hquotas, hchannels⟩ := hagrees.made_eq hfirst hsecond
  have hheap := hagrees.heap.clearOnReset_eq hfirst.rests.wellFormed.heap
    hsecond.rests.wellFormed.heap hquotas horder.keys_eq horder.grants_eq
  have hcontexts : first.platform.contexts = second.platform.contexts := by
    obtain ⟨config, hcoheres⟩ := hfirst.exists_coheres
    obtain ⟨other, hothers⟩ := hsecond.exists_coheres
    have hlist : first.platform.contexts.contexts = second.platform.contexts.contexts := by
      rw [hcoheres.isOrderly.contexts_eq, hothers.isOrderly.contexts_eq, hagrees.entries_eq]
    exact (ContextTable.mk.injEq ..).mpr ⟨hlist, horder.exports_eq, hagrees.nextContext_eq⟩
  rw [reset_of_rests hfirst.rests, reset_of_rests hsecond.rests]
  dsimp only
  rw [hagrees.config_eq, hatr, hheap, hagrees.transaction_eq hfirst hsecond, hcontexts,
    hagrees.registry_eq hfirst hsecond, hchannels]

/-! ### No code -/

/-- The card with other code in its applets. -/
def recoded (card : Card σ) (change : Applet σ → Applet σ) : Card σ :=
  { card with registry := { card.registry with
      entries := card.registry.entries.map fun entry ↦
        { entry with applet := change entry.applet } } }

/-- Cards reached that agree on what lasts, whatever their transient arrays hold, whichever of their
channels are open, and whatever is selected or waits there, are in the same state after a reset, and
are the same if they keep their tables in the same order. The reset blanks every transient array and
leaves only the basic channel open, with nothing selected and nothing waiting; it changes nothing
else, runs no code, and does not depend on the code of the applets. -/
theorem reset_forgets (hfirst : first.Reachable) (hsecond : second.Reachable)
    (hagrees : first.AgreesDurably second) :
    first.reset.state = second.reset.state ∧
      (first.KeepsOrder second → first.reset = { second.reset with host := first.host }) ∧
      first.IsReset first.reset ∧
      first.pieces .reset = [] ∧
      ∀ change, (first.recoded change).reset = first.reset.recoded change :=
  ⟨hagrees.state_reset hfirst hsecond, hagrees.reset_eq hfirst hsecond, isReset_reset hfirst, rfl,
    fun _ ↦ rfl⟩

/-- A card with bytes in transient arrays, an applet selected on a second channel and a response
that waits there, and the same card after it has been reset once already. -/
theorem reset_forgets_parked :
    let config : Config := { atr := "3B" }
    let powered : Card Unit := {
      config := config
      atr := [0x3B]
      platform := ⟨.empty config.quotas config.commitCapacity, .initial⟩
      registry := .empty config.maxApplets
      channels := .initial config.logicalChannels
      host := () }
    let aid : Aid := ⟨[0xA0, 0, 0, 0, 1], by decide, by decide⟩
    let factory : Factory Unit := fun _ ↦ do
      Code.register
      let scratch ← Code.allocate .clearOnDeselect .byte 2
      let kept ← Code.allocate .persistent .byte 2
      return { process := do
        Code.lift (Code.write scratch 0 [7, 7])
        Code.lift (Code.write kept 0 [8, 8])
        Code.respond [1, 2, 3, 4, 5] }
    let installed := powered.next (.install aid [] factory)
    let opened := installed.next (.openChannel 0 none)
    let selected := opened.next (.select aid 1)
    let card := selected.next (.transmit [1, 0x10, 0, 0, 2])
    card.Reachable ∧ (card.next .reset).Reachable ∧ card.AgreesDurably (card.next .reset) ∧
      card.platform.store.heap ≠ (card.next .reset).platform.store.heap ∧
      card.channels.selected 1 = some ⟨1⟩ ∧ card.channels.pending 1 = [3, 4, 5] ∧
      (card.next .reset).channels.isOpen 1 = false ∧
      card.reset.state = (card.next .reset).reset.state := by
  intro config powered aid factory installed opened selected card
  have hvalid : config.validate = .ok () := by decide
  have hatr : config.readAtr = .ok [0x3B] := by decide
  have hpowered : Card.ofConfig config () = .ok powered := by rw [Card.ofConfig, hvalid, hatr]
  have hinstalled : installed.Reachable :=
    @Reachable.next _ powered (.ofConfig hpowered) (.install aid [] factory) trivial
  have hopened : opened.Reachable :=
    @Reachable.next _ installed hinstalled (.openChannel 0 none) trivial
  have hselected : selected.Reachable := @Reachable.next _ opened hopened (.select aid 1) trivial
  have hreach : card.Reachable :=
    @Reachable.next _ selected hselected (.transmit [1, 0x10, 0, 0, 2]) trivial
  have hagain : (card.next .reset).Reachable := @Reachable.next _ card hreach .reset trivial
  have hagrees : card.AgreesDurably (card.next .reset) := (isReset_reset hreach).agreesDurably
  exact ⟨hreach, hagain, hagrees, by decide +kernel, by decide +kernel, by decide +kernel,
    by decide +kernel, (reset_forgets hreach hagain hagrees).1⟩

end Card

end SmartCard

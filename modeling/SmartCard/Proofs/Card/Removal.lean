import SmartCard.Proofs.Applet.Preservation
import SmartCard.Proofs.Card.Isolation
import SmartCard.Proofs.Card.Protocol
import SmartCard.Proofs.Card.Reclamation

/-!
# Removing an applet leaves no trace

A removal has two halves. First the applet is dismissed (`Card.dismiss`): it leaves all its channels
and is told so each time, it is told once more that it is removed, and whatever it leaves open is
undone. Its code may do anything meanwhile, but all of it runs in one context, so the card stays
confined to what that context can do (`Card.Confined`): other arrays change only where the code
writes through a grant. Then the applet is evicted, and with it goes all that the context owns and
offers.

`Card.Sheds` is what a removal takes from the tables of a card and what it leaves to the other
applets. Since the context is retired, nothing of it ever comes back (`Card.Lacks`), and no handle
to an array that it owned is of use to anybody again (`Card.uninstall_leaves_no_trace`).
-/

set_option autoImplicit false
set_option relaxedAutoImplicit false

namespace SmartCard

/-! ### Tables -/

/-- A context removed takes its entry and its exports with it. -/
theorem ContextTable.remove_eq (table : ContextTable) {context : ContextId}
    (hcontext : context ≠ .system) :
    table.remove context = { table with
      contexts := table.contexts.filter fun entry ↦ entry.1 ≠ context
      exports := table.exportsBeside context } :=
  table.remove_of_ne_system hcontext

/-- The bytes counted drop by those of the arrays that are freed. -/
theorem Heap.WellFormed.used_releaseOwnedBy {heap : Heap} (hheap : heap.WellFormed)
    (owner : ContextId) (lifetime : Lifetime) :
    (heap.releaseOwnedBy owner).used.get lifetime +
        chargedTo lifetime (heap.regions.filter fun entry ↦ entry.2.owner = owner) =
      heap.used.get lifetime := by
  have hreleased : (heap.releaseOwnedBy owner).WellFormed := hheap.discard _
  rw [hreleased.used_eq, hheap.used_eq, Nat.add_comm]
  exact chargedTo_filter lifetime (fun entry ↦ entry.2.owner = owner) heap.regions

namespace Registry

variable {σ : Type} {registry : Registry σ} {entry : Registration σ} {aid : Aid}

/-- An applet removed is taken out, and the others stay in their order. -/
theorem remove_split (hdistinct : (registry.entries.map (·.context)).Nodup)
    (hentry : entry ∈ registry.entries) :
    ∃ before behind, registry.entries = before ++ entry :: behind ∧
      registry.remove entry.context = { registry with entries := before ++ behind } := by
  obtain ⟨found, before, behind, -, hcontext, hsplit, herased⟩ :=
    @List.exists_of_eraseP _ (·.context == entry.context) _ _ hentry
      (beq_self_eq_true entry.context)
  have hmem : found ∈ registry.entries :=
    hsplit ▸ List.mem_append_right before List.mem_cons_self
  obtain rfl := List.inj_on_of_nodup_map hdistinct hmem hentry (eq_of_beq hcontext)
  exact ⟨before, behind, hsplit, by rw [remove, herased]⟩

/-- No two applets being found under one identifier, none is found there after one is taken out. -/
theorem find?_of_split (hdistinct : registry.aids.Nodup)
    (hfound : registry.find? aid.bytes = some entry) {before behind : List (Registration σ)}
    (hsplit : registry.entries = before ++ entry :: behind) :
    { registry with entries := before ++ behind }.find? aid.bytes = none := by
  unfold find? at hfound ⊢
  have hnamed := List.find?_some hfound
  rw [aids, hsplit, List.map_append, List.map_cons, List.nodup_middle, ← List.map_append,
    List.nodup_cons] at hdistinct
  refine List.find?_eq_none.mpr fun other hother hsame ↦ hdistinct.1 ?_
  rw [← Aid.ext_bytes ((eq_of_beq hsame).trans (eq_of_beq hnamed).symm)]
  exact List.mem_map_of_mem hother

/-- What a selection names is registered. -/
theorem mem_of_resolve? {bytes : List UInt8} (hresolved : registry.resolve? bytes = some entry) :
    entry ∈ registry.entries := by
  rcases Option.or_eq_some_iff.mp hresolved with hfound | ⟨-, hfound⟩
  · exact List.mem_of_find?_eq_some hfound
  · exact List.mem_of_find?_eq_some hfound

end Registry

namespace ChannelTable

/-- The table with an applet taken off every channel. -/
def vacate (table : ChannelTable) (context : ContextId) : ChannelTable :=
  ⟨table.channels.map fun slot ↦
    if slot.selected = some context then { slot with selected := none } else slot⟩

/-- An applet that leaves all its channels is taken off every channel. -/
theorem foldl_setSelected_channelsOf (table : ChannelTable) (context : ContextId) :
    (table.channelsOf context).foldl (·.setSelected · none) table = table.vacate context := by
  refine congrArg ChannelTable.mk (List.ext_getElem? fun channel ↦ ?_)
  rw [getElem?_foldl_setSelected, List.getElem?_map]
  cases hslot : table.channels[channel]? with
  | none => rfl
  | some slot =>
    have hselected : channel ∈ table.channelsOf context ↔ slot.selected = some context := by
      rw [mem_channelsOf, selected, hslot, Option.bind_some]
    simp only [Option.map_some, hselected]

end ChannelTable

namespace Card

variable {σ α : Type} {card middle : Card σ} {config : Config} {entry : Registration σ} {aid : Aid}

/-! ### Code in one context -/

section Confined

variable {context : ContextId} {calls : List (Call σ)}

/-- Whether a card differs from an earlier one by nothing but what code in one context can do, and
arrays of other contexts only where some of its calls have written through a grant. -/
structure Confined (after card : Card σ) (context : ContextId) (calls : List (Call σ)) : Prop where
  store : after.platform.store.Confines context (card.platform.store.heap.releaseOwnedBy context)
  exports_eq : after.platform.contexts.exportsBeside context =
    card.platform.contexts.exportsBeside context
  preserves : ∀ {id region}, card.platform.store.heap.find? id = some region →
    region.owner ≠ context → after.platform.store.Preserves id region fun position ↦
      ∃ call ∈ calls, call.WritesGranted context id position

theorem Confined.refl (hrests : card.platform.store.Rests) (context : ContextId) :
    card.Confined card context [] where
  store := hrests.confines_releaseOwnedBy context
  exports_eq := rfl
  preserves := fun hfind _ ↦ hrests.preserves hfind _

/-- Running code in the context. -/
theorem Confined.activate (hconfined : middle.Confined card context calls)
    (hsystem : context ≠ .system) {frame : Frame} (hframe : frame.context = context)
    (program : Program (services σ) α) :
    (middle.activate frame program).2.Confined card context
      (calls ++ (middle.code frame program).calls) := by
  have hstop := @Session.confined_stop σ context
    ⟨{ card.platform.store with heap := card.platform.store.heap.releaseOwnedBy context },
      { card.platform.contexts with exports := card.platform.contexts.exportsBeside context }⟩
    (middle.code frame program) ⟨hframe, hconfined.store, hconfined.exports_eq⟩
  exact ⟨hstop.store, hstop.exports_eq, fun hfind hforeign ↦
    @Piece.preserves_stop _ _ _ (middle.code frame program) context calls hframe hsystem hforeign
      (hconfined.preserves hfind hforeign)⟩

theorem Confined.settle (hconfined : middle.Confined card context calls) :
    middle.settle.Confined card context calls where
  store := hconfined.store.abort
  exports_eq := hconfined.exports_eq
  preserves := fun hfind hforeign ↦ (hconfined.preserves hfind hforeign).abort

theorem Confined.clearOnDeselect (hconfined : middle.Confined card context calls) :
    (middle.clearOnDeselect context).Confined card context calls where
  store := hconfined.store.clearOnDeselect
  exports_eq := hconfined.exports_eq
  preserves := fun hfind hforeign ↦
    (hconfined.preserves hfind hforeign).clearOnDeselect hforeign

/-- The applet leaves a channel, and its code is told. -/
theorem Confined.deselect (hconfined : middle.Confined card context calls)
    (hsystem : context ≠ .system) {channel : Nat}
    (hselected : ∀ other, middle.channels.selected channel = some other → other = context) :
    (middle.deselect channel).Confined card context
      (calls ++ (middle.deselectPieces channel).flatMap Piece.calls) := by
  cases hseat : middle.channels.selected channel with
  | none =>
    rw [Card.deselect, deselectPieces, hseat, List.flatMap_nil, List.append_nil]
    exact hconfined
  | some other =>
    obtain rfl := hselected other hseat
    have hcleared : (middle.setSelected channel none).Confined card other calls :=
      ⟨hconfined.store, hconfined.exports_eq, hconfined.preserves⟩
    have htold : (middle.farewell channel other).Confined card other
        (calls ++ (middle.deselectPieces channel).flatMap Piece.calls) := by
      rw [farewell, deselectPieces, hseat]
      dsimp only
      cases (middle.setSelected channel none).registry.inContext? other with
      | none =>
        rw [List.flatMap_nil, List.append_nil]
        exact hcleared.settle
      | some entry =>
        rw [List.flatMap_singleton]
        exact (hcleared.activate hsystem rfl entry.applet.deselect).settle
    rw [deselect_eq hseat, forget]
    split
    · exact htold.clearOnDeselect
    · exact htold

/-- The applet leaves some channels, one after another. -/
theorem Confined.deselectAll (hconfined : middle.Confined card context calls)
    (hsystem : context ≠ .system) {channels : List Nat}
    (hselected : ∀ channel ∈ channels, ∀ other,
      middle.channels.selected channel = some other → other = context) :
    (channels.foldl Card.deselect middle).Confined card context
      (calls ++ (middle.piecesAlong (channels.map .leave)).flatMap Piece.calls) := by
  induction channels generalizing middle calls with
  | nil =>
    rw [List.map_nil, piecesAlong, along, List.flatMap_nil, List.flatMap_nil, List.append_nil]
    exact hconfined
  | cons channel rest ih =>
    have hleft := hconfined.deselect hsystem (hselected channel List.mem_cons_self)
    rw [List.map_cons, piecesAlong_cons, List.flatMap_append, ← List.append_assoc]
    refine ih hleft fun other hother found hfound ↦ ?_
    rw [channels_deselect, ChannelTable.selected_setSelected_none] at hfound
    split at hfound
    · cases hfound
    · exact hselected other (List.mem_cons_of_mem channel hother) found hfound

end Confined

/-! ### Dismissal and eviction -/

/-- The card on which an applet has left all its channels and been told that it is removed, with
nothing left open. -/
def dismiss (card : Card σ) (entry : Registration σ) : Card σ :=
  (((card.channels.channelsOf entry.context).foldl Card.deselect card).activate
    ⟨entry.context, 0, false⟩ entry.applet.uninstall).2.settle

/-- A removal dismisses the applet and then evicts it. -/
theorem uninstall_eq (hfound : card.registry.find? aid.bytes = some entry) :
    card.uninstall aid = (.ok (), (card.dismiss entry).evict entry.context) := by
  rw [uninstall, hfound]
  rfl

theorem registry_dismiss (card : Card σ) (entry : Registration σ) :
    (card.dismiss entry).registry = card.registry :=
  registry_deselectAll card _

theorem channels_dismiss (card : Card σ) (entry : Registration σ) :
    (card.dismiss entry).channels = card.channels.vacate entry.context :=
  (channels_deselectAll card _).trans (card.channels.foldl_setSelected_channelsOf entry.context)

theorem confined_dismiss (hrests : card.platform.store.Rests) (hsystem : entry.context ≠ .system)
    (hfound : card.registry.find? aid.bytes = some entry) :
    (card.dismiss entry).Confined card entry.context
      ((card.pieces (.uninstall aid)).flatMap Piece.calls) := by
  have hselected : ∀ channel ∈ card.channels.channelsOf entry.context, ∀ other,
      card.channels.selected channel = some other → other = entry.context :=
    fun channel hchannel other hother ↦
      Option.some.inj (hother.symm.trans (ChannelTable.mem_channelsOf.mp hchannel))
  have hleft := (Confined.refl hrests entry.context).deselectAll hsystem hselected
  have htold : (card.dismiss entry).Confined card entry.context _ :=
    (hleft.activate hsystem rfl entry.applet.uninstall).settle
  rw [pieces, stages, uninstallStages, hfound]
  dsimp only
  rw [piecesAlong_append, piecesAlong_singleton, foldl_leave, List.flatMap_append, stagePieces,
    List.flatMap_singleton]
  exact htold

theorem Coheres.dismiss (hcoheres : card.Coheres config)
    (hentry : entry ∈ card.registry.entries) : (card.dismiss entry).Coheres config := by
  have hleft := course_along (card.isReady_leave (card.channels.channelsOf entry.context))
  rw [foldl_leave] at hleft
  refine hcoheres.course (hleft.trans (course_activate ?_ rfl entry.applet.uninstall)).settle
  rw [registry_deselectAll]
  exact hentry

/-! ### What a removal takes and what it leaves -/

/-- What the removal of an applet takes from a card, and what it leaves to the other applets. Their
arrays may hold something else only where some calls of the applet have written through a grant. -/
structure Sheds (card : Card σ) (entry : Registration σ) (calls : List (Call σ))
    (after : Card σ) : Prop where
  registry_split : ∃ before behind, card.registry.entries = before ++ entry :: behind ∧
    after.registry = { card.registry with entries := before ++ behind }
  contexts_eq : after.platform.contexts.contexts =
    card.platform.contexts.contexts.filter fun bound ↦ bound.1 ≠ entry.context
  exports_eq : after.platform.contexts.exports =
    card.platform.contexts.exportsBeside entry.context
  channels_eq : after.channels = card.channels.vacate entry.context
  outline_eq : after.platform.store.heap.outline =
    (card.platform.store.heap.releaseOwnedBy entry.context).outline
  preserved : ∀ {id region}, card.platform.store.heap.find? id = some region →
    region.owner ≠ entry.context →
      ∃ later, after.platform.store.heap.find? id = some later ∧
        later.AgreesOutside region fun position ↦
          ∃ call ∈ calls, call.WritesGranted entry.context id position
  depth_eq : after.transactionDepth = 0

theorem Reachable.sheds (hreach : card.Reachable)
    (hfound : card.registry.find? aid.bytes = some entry) :
    card.Sheds entry ((card.pieces (.uninstall aid)).flatMap Piece.calls)
      ((card.dismiss entry).evict entry.context) := by
  obtain ⟨config, hcoheres⟩ := hreach.exists_coheres
  have hentry := List.mem_of_find?_eq_some hfound
  have hsystem := hcoheres.context_ne_system hentry
  have hdismissed := hcoheres.dismiss hentry
  have hconfined := confined_dismiss hreach.rests hsystem hfound
  have htable := (card.dismiss entry).platform.contexts.remove_eq hsystem
  have hafter : card.next (.uninstall aid) = (card.dismiss entry).evict entry.context :=
    congrArg Prod.snd (uninstall_eq hfound)
  exact {
    registry_split := by
      obtain ⟨before, behind, hsplit, hremoved⟩ :=
        Registry.remove_split hcoheres.nodup_contexts hentry
      refine ⟨before, behind, hsplit, Eq.trans ?_ hremoved⟩
      exact congrArg (Registry.remove · entry.context) (registry_dismiss card entry)
    contexts_eq := by
      have hsame : (card.dismiss entry).platform.contexts.contexts =
          card.platform.contexts.contexts := by
        rw [hdismissed.houses.contexts_eq, hcoheres.houses.contexts_eq, registry_dismiss]
      rw [← hsame]
      exact congrArg ContextTable.contexts htable
    exports_eq := (congrArg ContextTable.exports htable).trans hconfined.exports_eq
    channels_eq := channels_dismiss card entry
    outline_eq := (hconfined.store.release hsystem).1
    preserved := fun hfind hforeign ↦ (hconfined.preserves hfind hforeign).found_of_release hforeign
    depth_eq := hafter ▸ (@Reachable.next _ card hreach (.uninstall aid) trivial).rests.depth_eq }

/-! ### A context that is gone -/

/-- Whether nothing on a card belongs to a context: it is in no table, no selection leads to it, it
owns nothing, and nothing is offered in its name. -/
structure Lacks (card : Card σ) (context : ContextId) : Prop where
  unregistered : ∀ other ∈ card.registry.entries, other.context ≠ context
  unresolved : ∀ bytes found, card.registry.resolve? bytes = some found → found.context ≠ context
  unbound : ∀ bound ∈ card.platform.contexts.contexts, bound.1 ≠ context
  unselected : ∀ channel, card.channels.selected channel ≠ some context
  unowned : ∀ {id region}, card.platform.store.heap.find? id = some region → region.owner ≠ context
  unoffered : ∀ parameter client,
    card.platform.contexts.lookupExport context parameter client = none

section Retired

variable {context : ContextId}

/-- A card lacks a context that is retired. -/
theorem Retired.lacks (hretired : card.Retired context) (hcoheres : card.Coheres config)
    (hsystem : context ≠ .system) : card.Lacks context := by
  have horderly := hcoheres.isOrderly
  have hgone : ∀ {other}, (∃ found ∈ card.registry.entries, found.context = other) →
      other ≠ context := by
    rintro _ ⟨found, hfound, rfl⟩
    exact hretired.not_registered found hfound
  exact {
    unregistered := hretired.not_registered
    unresolved := fun bytes found hresolved ↦
      hretired.not_registered found (Registry.mem_of_resolve? hresolved)
    unbound := by
      rw [horderly.contexts_eq]
      refine List.forall_mem_append.mpr ⟨fun bound hbound ↦ ?_, ?_⟩
      · obtain ⟨found, hfound, rfl⟩ := List.mem_map.mp (List.mem_reverse.mp hbound)
        exact hretired.not_registered found hfound
      · exact List.forall_mem_singleton.mpr hsystem.symm
    unselected := fun channel hselected ↦ hgone (horderly.selected_registered hselected) rfl
    unowned := fun hfind ↦ hgone (horderly.owner_registered hfind)
    unoffered := fun parameter client ↦ by
      cases hlookup : card.platform.contexts.lookupExport context parameter client with
      | none => rfl
      | some array =>
        obtain ⟨_, hexport, -⟩ := ContextTable.mem_of_lookupExport hlookup
        exact absurd rfl (hgone (horderly.server_registered hexport)) }

/-- No code runs in a retired context. -/
theorem Retired.context_runPieces (hretired : card.Retired context) (hcoheres : card.Coheres config)
    (operations : List (Operation σ)) :
    ∀ piece ∈ card.runPieces operations, piece.start.context ≠ context := by
  rintro piece hpiece rfl
  have hframe := List.mem_map_of_mem (f := fun piece : Piece σ ↦ piece.start.frame) hpiece
  rw [frames_eq, events, scenes_eq_along] at hframe
  obtain ⟨event, hevent, hframe⟩ := List.mem_filterMap.mp hframe
  exact hretired.eventsAlong (hcoheres.playsWell operations) event hevent
    (congrArg (Option.map Frame.context) hframe)

theorem Retired.foldl (hretired : card.Retired context) (operations : List (Operation σ)) :
    (operations.foldl Card.next card).Retired context := by
  induction operations generalizing card with
  | nil => exact hretired
  | cons operation rest ih => exact ih (hretired.course (course_next card operation))

end Retired

/-- No context is found for an identifier under which no applet is registered. -/
theorem Coheres.findByAid_eq_none (hcoheres : card.Coheres config)
    (hnone : card.registry.find? aid.bytes = none) :
    card.platform.contexts.findByAid aid.bytes = none := by
  refine ContextTable.findByAid_eq_none_iff.mpr ?_
  rw [hcoheres.isOrderly.contexts_eq]
  refine List.forall_mem_append.mpr ⟨fun bound hbound hsame ↦ ?_, ?_⟩
  · obtain ⟨found, hfound, rfl⟩ := List.mem_map.mp (List.mem_reverse.mp hbound)
    refine List.find?_eq_none.mp hnone found hfound (beq_iff_eq.mpr ?_)
    exact congrArg Aid.bytes (Option.some.inj hsame)
  · exact List.forall_mem_singleton.mpr (Option.some_ne_none aid).symm

/-! ### No trace -/

/-- A removal leaves no trace. Of an identifier that is not registered it changes nothing. Otherwise
it always succeeds, whatever the applet's code does and however that ends: the applet is dismissed
and then evicted. The other applets keep what they had, but where calls of the applet have written
through a grant. The bytes counted drop by just those of the arrays that the context still had when
it was evicted. Its identifier is found no more. And whatever is done to the card from then on,
nothing on it belongs to the context, no code runs in it, and a handle to such an array is of no use
to anybody. -/
theorem uninstall_leaves_no_trace (hreach : card.Reachable) (aid : Aid) :
    (card.registry.find? aid.bytes = none →
      card.uninstall aid = (.error (.registry (.unknownAid aid)), card)) ∧
    ∀ entry, card.registry.find? aid.bytes = some entry →
      ∃ after, card.uninstall aid = (.ok (), after) ∧
        after = (card.dismiss entry).evict entry.context ∧
        card.Sheds entry ((card.pieces (.uninstall aid)).flatMap Piece.calls) after ∧
        (∀ lifetime, after.platform.store.heap.used.get lifetime +
            Heap.chargedTo lifetime ((card.dismiss entry).platform.store.heap.regions.filter
              fun array ↦ array.2.owner = entry.context) =
          (card.dismiss entry).platform.store.heap.used.get lifetime) ∧
        after.registry.find? aid.bytes = none ∧
        after.platform.contexts.findByAid aid.bytes = none ∧
        ∀ operations : List (Operation σ),
          (operations.foldl Card.next after).Lacks entry.context ∧
          (∀ piece ∈ after.runPieces operations, piece.start.context ≠ entry.context) ∧
          ∀ (array : ArrayRef) region,
            (card.dismiss entry).platform.store.heap.find? array.id = some region →
            region.owner = entry.context →
              array.IsStale (operations.foldl Card.next after).platform.store ∧
                ∀ call ∈ after.trace operations, array.IsStale call.session.platform.store := by
  refine ⟨fun hnone ↦ by rw [uninstall, hnone], fun entry hfound ↦ ?_⟩
  obtain ⟨config, hcoheres⟩ := hreach.exists_coheres
  have hentry := List.mem_of_find?_eq_some hfound
  have hsystem := hcoheres.context_ne_system hentry
  have hdismissed := hcoheres.dismiss hentry
  have hsheds := hreach.sheds hfound
  have hretired := retired_evict hdismissed ((registry_dismiss card entry).symm ▸ hentry)
  have hafter : ((card.dismiss entry).evict entry.context).Coheres config := by
    have hcourse := course_next card (.uninstall aid)
    rw [next, uninstall_eq hfound] at hcourse
    exact hcoheres.course hcourse
  have hnone : ((card.dismiss entry).evict entry.context).registry.find? aid.bytes = none := by
    obtain ⟨before, behind, hsplit, hremoved⟩ := hsheds.registry_split
    rw [hremoved]
    exact Registry.find?_of_split hcoheres.isOrderly.aids_nodup hfound hsplit
  have hheap := hdismissed.houses.store.heap
  refine ⟨_, uninstall_eq hfound, rfl, hsheds, hheap.used_releaseOwnedBy entry.context, hnone,
    hafter.findByAid_eq_none hnone, fun operations ↦ ⟨?_, ?_, ?_⟩⟩
  · exact (hretired.foldl operations).lacks (hafter.foldl operations) hsystem
  · exact hretired.context_runPieces hafter operations
  · intro array region hfind howner
    refine isStale_of_dead hafter.houses.store (hheap.lt_nextId hfind) ?_ operations
    cases hlive : ((card.dismiss entry).platform.store.heap.releaseOwnedBy
        entry.context).find? array.id with
    | none => exact congrArg Option.isSome hlive
    | some later =>
      obtain ⟨hthere, hforeign⟩ := (Heap.find?_releaseOwnedBy_eq_some_iff hheap.nodup).mp hlive
      exact absurd (Option.some.inj (hfind.symm.trans hthere) ▸ howner) hforeign

/-- An applet on two channels that writes to a lent array in a transaction each time it leaves one,
and once more, outside of any, before it crashes while it is removed. -/
theorem uninstall_leaves_no_trace_crashing :
    let config : Config := { atr := "3B" }
    let powered : Card Unit := {
      config := config
      atr := [0x3B]
      platform := ⟨.empty config.quotas config.commitCapacity, .initial⟩
      registry := .empty config.maxApplets
      channels := .initial config.logicalChannels
      host := () }
    let server : Aid := ⟨[0xA0, 0, 0, 0, 1], by decide, by decide⟩
    let guest : Aid := ⟨[0xA0, 0, 0, 0, 2], by decide, by decide⟩
    let lending : Factory Unit := fun _ ↦ do
      let array ← Code.allocate .persistent .byte 2
      Code.offer array 0 none
      Code.register
      return { process := Code.refuse .noError }
    let borrowing : Factory Unit := fun _ ↦ do
      Code.register
      let own ← Code.allocate .persistent .byte 4
      Code.offer own 0 none
      let some lent ← Code.shared server 0 | Code.refuse .fileFull
      return {
        process := Code.refuse .noError
        deselect := do
          let _ ← Code.begin.run
          let _ ← (Code.fill lent 0 2 7).run
          return ()
        uninstall := do
          let _ ← (Code.fill lent 0 1 9).run
          let _ ← (Code.allocate .clearOnReset .short 3).run
          .crash none
        multiSelectable := true }
    let lent := powered.next (.install server [] lending)
    let borrowed := lent.next (.install guest [] borrowing)
    let opened := borrowed.next (.openChannel 0 none)
    let selected := opened.next (.select guest 0)
    let card := selected.next (.select guest 1)
    let after := card.next (.uninstall guest)
    card.Reachable ∧ card.channels.channelsOf ⟨2⟩ = [0, 1] ∧
      (after.platform.store.heap.find? 1).map (·.cells.toBytes) = some [9, 0] ∧
      ∀ operations : List (Operation Unit),
        (operations.foldl Card.next after).Lacks ⟨2⟩ ∧
        ArrayRef.IsStale ⟨2, ⟨2⟩⟩ (operations.foldl Card.next after).platform.store := by
  intro config powered server guest lending borrowing lent borrowed opened selected card after
  have hvalid : config.validate = .ok () := by decide
  have hatr : config.readAtr = .ok [0x3B] := by decide
  have hpowered : Card.ofConfig config () = .ok powered := by rw [Card.ofConfig, hvalid, hatr]
  have hlent : lent.Reachable :=
    @Reachable.next _ powered (.ofConfig hpowered) (.install server [] lending) trivial
  have hborrowed : borrowed.Reachable :=
    @Reachable.next _ lent hlent (.install guest [] borrowing) trivial
  have hopened : opened.Reachable :=
    @Reachable.next _ borrowed hborrowed (.openChannel 0 none) trivial
  have hselected : selected.Reachable :=
    @Reachable.next _ opened hopened (.select guest 0) trivial
  have hreach : card.Reachable :=
    @Reachable.next _ selected hselected (.select guest 1) trivial
  have hseated : card.channels.channelsOf ⟨2⟩ = [0, 1] := by decide +kernel
  have hwritten : (after.platform.store.heap.find? 1).map (·.cells.toBytes) = some [9, 0] := by
    decide +kernel
  have hregistered : (card.registry.find? guest.bytes).map (·.context) = some ⟨2⟩ := by
    decide +kernel
  have howned : (card.registry.find? guest.bytes).bind (fun entry ↦
      ((card.dismiss entry).platform.store.heap.find? 2).map (·.owner)) = some ⟨2⟩ := by
    decide +kernel
  have hnext : after = (card.uninstall guest).2 := rfl
  clear_value after card
  obtain ⟨entry, hfound, hcontext⟩ := Option.map_eq_some_iff.mp hregistered
  rw [hfound, Option.bind_some] at howned
  obtain ⟨region, hfind, howner⟩ := Option.map_eq_some_iff.mp howned
  obtain ⟨gone, huninstall, -, -, -, -, -, hforever⟩ :=
    (uninstall_leaves_no_trace hreach guest).2 entry hfound
  rw [huninstall] at hnext
  subst hnext
  refine ⟨hreach, hseated, hwritten, fun operations ↦ ?_⟩
  obtain ⟨hlacks, -, hstale⟩ := hforever operations
  rw [hcontext] at hlacks hstale
  exact ⟨hlacks, (hstale ⟨2, ⟨2⟩⟩ region hfind howner).1⟩

end Card

end SmartCard

import SmartCard.Applet.Code
import SmartCard.Proofs.Card.Course

/-!
# No transaction outlives its code

Applet code may end with a transaction open: by returning, by failing or in a crash. The card undoes
it before any other code runs and before the operation ends. `Settles` says so of all the pieces of
code that an operation runs: each starts with no transaction open and nothing recorded, from the
arrays and persistent contents at which the piece before it rests, and so does whatever comes after
the operation. Arrays are lost only with the context of a failed installation or of a removed
applet.

Every stage of an operation settles (`Card.settles_perform`), and so does every operation of every
card reached (`Card.operation_settles`). The statement follows the contents from one piece of code
to the next without a gap, so no piece is left out.
-/

set_option autoImplicit false
set_option relaxedAutoImplicit false

namespace SmartCard

/-- The heap without the arrays of a context, if one is given. -/
def Heap.without (heap : Heap) : Option ContextId → Heap
  | none => heap
  | some context => heap.releaseOwnedBy context

/-- Whether pieces of code, run one after another from some heap on, and what comes `after` them
each start at rest where the piece before rests. In the end the arrays of a lost context are
gone. -/
def Settles (lost : Option ContextId) (after : Store) : Heap → List Activity → Prop
  | heap, [] => after.Rests ∧ after.heap.Resembles (heap.without lost)
  | heap, activity :: rest =>
    activity.start.Rests ∧ activity.start.heap.Resembles heap ∧ activity.IsMarked ∧
      Settles lost after activity.resting rest

namespace Store

variable {store : Store}

/-- A store at rest stays so when its heap changes. -/
theorem Rests.withHeap (hrests : store.Rests) {heap : Heap} (hheap : heap.WellFormed)
    (hfollows : heap.Follows store.heap) : { store with heap }.Rests :=
  ⟨hrests.wellFormed.withHeap hheap hfollows, hrests.depth_eq, hrests.journal_eq⟩

/-- A store at rest stays so whatever the tear injector is set to. -/
theorem Rests.withTear (hrests : store.Rests) (tear : TearInjector) :
    (store.withTear tear).Rests :=
  ⟨hrests.wellFormed.withTear tear, hrests.depth_eq, hrests.journal_eq⟩

/-- A store at rest is left alone by undoing. -/
theorem Rests.settle_eq (hrests : store.Rests) : store.settle = store :=
  settle_of_idle (depth_eq_zero_iff.mp hrests.depth_eq)

end Store

namespace Settles

variable {lost : Option ContextId} {middle after : Store} {heap other : Heap}
  {activity : Activity} {first second : List Activity}

/-- What comes after is at rest. -/
theorem rests (hsettles : Settles lost after heap first) : after.Rests := by
  induction first generalizing heap with
  | nil => exact hsettles.1
  | cons activity rest ih => exact ih hsettles.2.2.2

/-- With no code run, a store at rest comes after itself. -/
theorem refl (hrests : after.Rests) : Settles none after after.heap [] :=
  ⟨hrests, .refl _⟩

/-- Pieces of code may start from any heap that looks the same. -/
theorem of_resembles (hsettles : Settles lost after other first) (hother : other.WellFormed)
    (hresembles : other.Resembles heap) : Settles lost after heap first := by
  cases first with
  | nil =>
    refine ⟨hsettles.1, hsettles.2.trans ?_⟩
    cases lost with
    | none => exact hresembles
    | some context => exact hresembles.releaseOwnedBy hother context
  | cons activity rest => exact ⟨hsettles.1, hsettles.2.1.trans hresembles, hsettles.2.2⟩

/-- What comes after may change as long as it rests and looks the same. -/
theorem congr_after (hsettles : Settles lost middle heap first) (hafter : after.Rests)
    (hresembles : after.heap.Resembles middle.heap) : Settles lost after heap first := by
  induction first generalizing heap with
  | nil => exact ⟨hafter, hresembles.trans hsettles.2⟩
  | cons activity rest ih =>
    exact ⟨hsettles.1, hsettles.2.1, hsettles.2.2.1, ih hsettles.2.2.2⟩

/-- Some pieces of code after others. -/
theorem append (hfirst : Settles none middle heap first)
    (hsecond : Settles lost after middle.heap second) :
    Settles lost after heap (first ++ second) := by
  induction first generalizing heap with
  | nil => exact hsecond.of_resembles hfirst.1.wellFormed.heap hfirst.2
  | cons activity rest ih =>
    exact ⟨hfirst.1, hfirst.2.1, hfirst.2.2.1, ih hfirst.2.2.2⟩

/-- The arrays of a context may be lost in the end. -/
theorem release (hsettles : Settles none middle heap first) (context : ContextId) :
    Settles (some context) { middle with heap := middle.heap.releaseOwnedBy context } heap
      first := by
  induction first generalizing heap with
  | nil =>
    obtain ⟨hrests, hresembles⟩ := hsettles
    have hheap := hrests.wellFormed.heap
    exact ⟨hrests.withHeap (hheap.discard _) (Heap.follows_discard hheap _),
      hresembles.releaseOwnedBy hheap context⟩
  | cons activity rest ih =>
    exact ⟨hsettles.1, hsettles.2.1, hsettles.2.2.1, ih hsettles.2.2.2⟩

/-- One piece of code and the undoing of what it leaves open. -/
theorem single {σ : Type} {piece : Piece σ} (hrests : piece.start.platform.store.Rests) :
    Settles none piece.stop.platform.store.settle piece.start.platform.store.heap
      [piece.activity] := by
  have htracks := Piece.tracks_activity hrests
  obtain ⟨hsettled, hresembles⟩ := Activity.settle htracks
  rw [piece.stop_activity] at hsettled hresembles
  rw [← piece.start_activity] at hrests ⊢
  exact ⟨hrests, .refl _, Activity.isMarked htracks, hsettled, hresembles⟩

end Settles

namespace Card

variable {σ α : Type} {card : Card σ}

/-! ### Selection -/

/-- Running code in a frame and undoing what it leaves open. -/
theorem settles_activate (hrests : card.platform.store.Rests) (frame : Frame)
    (program : Program (services σ) α) :
    Settles none (card.activate frame program).2.settle.platform.store card.platform.store.heap
      [(card.code frame program).activity] :=
  @Settles.single σ (card.code frame program) hrests

/-- Forgetting what a context loses by deselection changes nothing that counts. -/
theorem settles_clearOnDeselect {heap : Heap} {log : List Activity}
    (hsettles : Settles none card.platform.store heap log) (context : ContextId) :
    Settles none (card.clearOnDeselect context).platform.store heap log := by
  have hrests := hsettles.rests
  refine hsettles.congr_after ?_ (Heap.resembles_clearOnDeselect _ context)
  exact hrests.withHeap (hrests.wellFormed.heap.clearWhere _) (Heap.follows_clearWhere _ _)

theorem settles_deselect (hrests : card.platform.store.Rests) (channel : Nat) :
    Settles none (card.deselect channel).platform.store card.platform.store.heap
      ((card.deselectPieces channel).map Piece.activity) := by
  unfold deselect deselectPieces
  cases hselected : card.channels.selected channel with
  | none => exact .refl hrests
  | some context =>
    have hrun : ∀ told : Card σ, ∀ log,
        Settles none told.settle.platform.store card.platform.store.heap log →
        Settles none (if (told.settle.channels.channelsOf context).isEmpty then
          told.settle.clearOnDeselect context else told.settle).platform.store
          card.platform.store.heap log := by
      intro told log hsettles
      split
      · exact settles_clearOnDeselect hsettles context
      · exact hsettles
    dsimp only
    cases (card.setSelected channel none).registry.inContext? context with
    | none =>
      refine hrun _ _ ?_
      change Settles none card.platform.store.settle _ _
      rw [hrests.settle_eq]
      exact .refl hrests
    | some entry => exact hrun _ _ (settles_activate hrests _ _)

theorem settles_refuseSelection {heap : Heap} {log : List Activity}
    (hsettles : Settles none card.platform.store heap log) (channel : Nat) (context : ContextId) :
    Settles none (card.refuseSelection channel context).platform.store heap log := by
  unfold refuseSelection
  dsimp only
  split
  · exact hsettles
  · exact settles_clearOnDeselect hsettles context

theorem settles_seat (hrests : card.platform.store.Rests) (channel : Nat)
    (entry : Registration σ) :
    Settles none (card.seat channel entry).2.platform.store card.platform.store.heap
      [((card.setSelected channel (some entry.context)).code ⟨entry.context, channel, true⟩
        entry.applet.select).activity] := by
  have hasked := @settles_activate σ _ (card.setSelected channel (some entry.context)) hrests
    ⟨entry.context, channel, true⟩ entry.applet.select
  unfold seat
  dsimp only
  generalize Card.activate _ _ entry.applet.select = outcome at hasked ⊢
  obtain ⟨(_ | _) | _, asked⟩ := outcome
  · exact settles_refuseSelection hasked channel entry.context
  · exact hasked
  · exact settles_refuseSelection hasked channel entry.context

/-! ### Commands -/

theorem platform_reply (card : Card σ) (channel : Nat) (output : List UInt8) (accepted : Nat) :
    (card.reply channel output accepted).2.platform = card.platform := by
  unfold reply
  split <;> rfl

theorem settles_process (hrests : card.platform.store.Rests) (channel : Nat) (context : ContextId)
    (command : Command) (selecting : Bool) :
    Settles none (card.process channel context command selecting).2.platform.store
      card.platform.store.heap
      ((card.processPieces channel context command selecting).map Piece.activity) := by
  unfold process processPieces
  cases card.registry.inContext? context with
  | none => exact .refl hrests
  | some entry =>
    have hsingle := @Settles.single σ (.handler
      ⟨⟨context, channel, selecting⟩, card.platform, card.host, none⟩
      (Exchange.start command card.config.bufferSize selecting) entry.applet.process.run) hrests
    rw [Piece.stop] at hsingle
    dsimp only
    generalize Program.run Session.answerProcess entry.applet.process.run _ = outcome
      at hsingle ⊢
    obtain ⟨ending, session, exchange⟩ := outcome
    dsimp only at hsingle ⊢
    split
    · exact hsingle
    · split
      · exact hsingle
      · rw [platform_reply]
        exact hsingle

/-! ### Installation, removal and the rest -/

/-- A factory runs, and what it leaves open is undone, before anything is decided. -/
theorem settles_install (hrests : card.platform.store.Rests) (aid : Aid) (data : List UInt8)
    (factory : Factory σ) :
    Settles (card.installLost aid data factory) (card.install aid data factory).2.platform.store
      card.platform.store.heap ((card.installPieces aid data factory).map Piece.activity) := by
  unfold installLost installPieces install
  cases card.admitInstall aid data with
  | error error => exact .refl hrests
  | ok params =>
    cases card.platform.contexts.create with
    | none => exact .refl hrests
    | some created =>
      obtain ⟨context, contexts⟩ := created
      have hkept := @Settles.single σ (.code ⟨⟨context, 0, false⟩,
        { card.platform with contexts }, card.host, some ⟨params, none⟩⟩
          (factory params).run) hrests
      change Settles none (Card.build { card with platform := { card.platform with contexts } }
        context params factory).2.platform.store _ _ at hkept
      dsimp only
      generalize Card.build _ context params factory = outcome at hkept ⊢
      obtain ⟨_ | ⟨registered, applet⟩, built⟩ := outcome
      · exact hkept.release context
      · dsimp only
        cases built.registry.insert ⟨registered, context, params, applet⟩ with
        | error error => exact hkept.release context
        | ok registry => exact hkept

/-- Looking at an applet's memory, by code that does not crash. -/
theorem settles_inspect (hrests : card.platform.store.Rests) {aid : Aid}
    {program : Program (services σ) α}
    (hreturns : ∀ text, (card.inspect aid program).1 ≠ some (.crash text)) :
    Settles none (card.inspect aid program).2.platform.store card.platform.store.heap
      ((card.inspectPieces aid program).map Piece.activity) := by
  unfold inspect at hreturns ⊢
  unfold inspectPieces
  generalize card.registry.find? aid.bytes = found at hreturns ⊢
  cases found with
  | none => exact .refl hrests
  | some entry =>
    have hasked := settles_activate hrests ⟨entry.context, 0, false⟩ program
    dsimp only at hreturns ⊢
    generalize card.activate ⟨entry.context, 0, false⟩ program = outcome at hreturns hasked ⊢
    obtain ⟨_ | text, asked⟩ := outcome
    · exact hasked
    · exact absurd rfl (hreturns text)

theorem settles_reset (hrests : card.platform.store.Rests) :
    Settles none card.reset.platform.store card.platform.store.heap [] := by
  have hsettled : card.settle.platform.store = card.platform.store := hrests.settle_eq
  change Settles none { card.settle.platform.store with
    heap := card.settle.platform.store.heap.clearOnReset } _ []
  rw [hsettled]
  exact ⟨hrests.withHeap (hrests.wellFormed.heap.clearWhere _) (Heap.follows_clearWhere _ _),
    Heap.resembles_clearOnReset _⟩

/-! ### Every stage -/

/-- The context whose arrays are gone after a stage. -/
def Stage.lost (card : Card σ) : Stage σ → Option ContextId
  | .install aid data factory => card.installLost aid data factory
  | .expel entry => some entry.context
  | _ => none

/-- Whether a stage comes to its end. -/
def Stage.Returns (card : Card σ) : Stage σ → Prop
  | .inspect aid program => card.Returns (.inspect aid program)
  | _ => True

/-- A stage on a card at rest settles. -/
theorem settles_perform (hrests : card.platform.store.Rests) {stage : Stage σ}
    (hreturns : stage.Returns card) :
    Settles (stage.lost card) (card.perform stage).platform.store card.platform.store.heap
      ((card.stagePieces stage).map Piece.activity) := by
  cases stage with
  | wait | reserve | shut | tell => exact .refl hrests
  | adjust change => exact .refl (hrests.withTear _)
  | leave channel => exact settles_deselect hrests channel
  | enter channel entry => exact settles_seat hrests channel entry
  | handle context command selecting =>
    exact settles_process hrests command.channel context command selecting
  | install aid data factory => exact settles_install hrests aid data factory
  | expel entry =>
    exact (settles_activate hrests ⟨entry.context, 0, false⟩ entry.applet.uninstall).release
      entry.context
  | inspect aid program => exact settles_inspect hrests hreturns
  | reset => exact settles_reset hrests

/-- So do stages one after another that lose nothing. -/
theorem settles_foldl (hrests : card.platform.store.Rests) {stages : List (Stage σ)}
    (hkeeps : ∀ scene ∈ along card stages, scene.2.Returns scene.1 ∧ scene.2.lost scene.1 = none) :
    Settles none (stages.foldl perform card).platform.store card.platform.store.heap
      ((card.piecesAlong stages).map Piece.activity) := by
  induction stages generalizing card with
  | nil => exact .refl hrests
  | cons stage rest ih =>
    obtain ⟨⟨hreturns, hlost⟩, hrest⟩ := List.forall_mem_cons.mp hkeeps
    have hfirst := settles_perform hrests hreturns
    rw [hlost] at hfirst
    rw [piecesAlong_cons, List.map_append]
    exact hfirst.append (ih hfirst.rests hrest)

/-! ### Every operation -/

/-- Whether an operation neither installs nor removes nor looks at memory. -/
def Operation.isPlain : Operation σ → Bool
  | .install _ _ _ | .uninstall _ | .inspect _ _ => false
  | _ => true

/-- The stages of such an operation lose nothing. -/
theorem Comprises.keeps {operation : Operation σ} {stage : Stage σ}
    (hcomprises : card.Comprises operation stage) (hplain : operation.isPlain = true)
    (before : Card σ) : stage.Returns before ∧ stage.lost before = none := by
  cases hcomprises with
  | routing hrouting =>
    cases stage with
    | wait | reserve | shut | leave | enter => exact ⟨trivial, rfl⟩
    | _ => cases hrouting
  | install | expel | inspect => cases hplain
  | handle | reset | armTear | disarmTear | setHost => exact ⟨trivial, rfl⟩

/-- An operation on a card at rest settles. -/
theorem settles_next (hrests : card.platform.store.Rests) {operation : Operation σ}
    (hreturns : card.Returns operation) :
    Settles (card.lost operation) (card.next operation).platform.store card.platform.store.heap
      (card.log operation) := by
  have hplain : operation.isPlain = true → Settles none
      ((card.stages operation).foldl perform card).platform.store card.platform.store.heap
      ((card.piecesAlong (card.stages operation)).map Piece.activity) :=
    fun hplain ↦ settles_foldl hrests fun scene hscene ↦
      (comprises_of_mem (mem_of_mem_along hscene)).keeps hplain scene.1
  rw [log, pieces, ← foldl_stages]
  cases operation with
  | install aid data factory =>
    rw [stages, piecesAlong_singleton]
    exact @settles_perform σ card hrests (.install aid data factory) trivial
  | uninstall aid =>
    rw [lost, stages, uninstallStages]
    cases card.registry.find? aid.bytes with
    | none => exact .refl hrests
    | some entry =>
      dsimp only
      rw [piecesAlong_append, piecesAlong_singleton, List.map_append, List.foldl_append]
      have hleaves : ∀ scene ∈ along card ((card.channels.channelsOf entry.context).map .leave),
          scene.2.Returns scene.1 ∧ scene.2.lost scene.1 = none := by
        intro scene hscene
        obtain ⟨channel, -, hleave⟩ := List.mem_map.mp (mem_of_mem_along hscene)
        rw [← hleave]
        exact ⟨trivial, rfl⟩
      have hleft := settles_foldl hrests hleaves
      exact hleft.append (@settles_perform σ _ hleft.rests (.expel entry) trivial)
  | inspect aid program =>
    rw [stages, piecesAlong_singleton]
    exact @settles_perform σ card hrests (.inspect aid program) hreturns
  | _ => exact hplain rfl

/-- Every card reached is at rest. -/
theorem Reachable.rests (hreach : card.Reachable) : card.platform.store.Rests := by
  induction hreach with
  | @ofConfig config host card hcard =>
    obtain ⟨atr, -, rfl⟩ := eq_of_ofConfig hcard
    exact (Store.wellFormed_empty config.quotas config.commitCapacity).rests rfl
  | next _ hreturns ih => exact (settles_next ih hreturns).rests

/-- After every operation of every card no transaction is open, and each piece of applet code that
the operation runs has been settled before anything else runs. -/
theorem operation_settles (hreach : card.Reachable) {operation : Operation σ}
    (hreturns : card.Returns operation) :
    (card.next operation).transactionDepth = 0 ∧
      (card.next operation).platform.store.transaction.journal.isEmpty = true ∧
      Settles (card.lost operation) (card.next operation).platform.store card.platform.store.heap
        (card.log operation) := by
  have hsettles := settles_next hreach.rests hreturns
  refine ⟨hsettles.rests.depth_eq, ?_, hsettles⟩
  rw [hsettles.rests.journal_eq]
  rfl

/-- A factory that fills an array inside a transaction, and registers without committing. -/
theorem operation_settles_unfinished :
    let config : Config := { atr := "3B" }
    let card : Card Unit := {
      config := config
      atr := [0x3B]
      platform := ⟨.empty config.quotas config.commitCapacity, .initial⟩
      registry := .empty config.maxApplets
      channels := .initial config.logicalChannels
      host := () }
    let aid : Aid := ⟨[0xA0, 0, 0, 0, 1], by decide, by decide⟩
    let factory : Factory Unit := fun _ ↦ do
      let array ← Code.allocate .persistent .byte 4
      Code.begin
      Code.fill array 0 4 7
      Code.register
      return { process := Code.refuse .noError }
    (card.Reachable ∧ card.Returns (.install aid [] factory)) ∧
      (card.next (.install aid [] factory)).transactionDepth = 0 ∧
      Settles (card.lost (.install aid [] factory))
        (card.next (.install aid [] factory)).platform.store card.platform.store.heap
        (card.log (.install aid [] factory)) := by
  intro config card aid factory
  have hvalid : config.validate = .ok () := by decide
  have hatr : config.readAtr = .ok [0x3B] := by decide
  have hpowered : Card.ofConfig config () = .ok card := by
    rw [Card.ofConfig, hvalid, hatr]
  have hreach : card.Reachable := .ofConfig hpowered
  have hreturns : card.Returns (.install aid [] factory) := trivial
  have hsettles := operation_settles hreach hreturns
  exact ⟨⟨hreach, hreturns⟩, hsettles.1, hsettles.2.2⟩

end Card

end SmartCard

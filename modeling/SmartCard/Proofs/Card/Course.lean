import SmartCard.Proofs.Card.Piece
import SmartCard.Proofs.Memory.Lineage

/-!
# What happens to a card

Whatever is done to a card comes down to a few kinds of steps (`Card.Course`): upkeep of its memory,
changes of its channels, the host being set, a piece of code running in the context of a registered
applet, an installation that fails or succeeds, and the removal of an applet that is selected
nowhere. A stage for which the card is ready is a course of such steps that runs the piece of code
of the stage (`Card.course_perform`), and so is an operation with its pieces (`Card.course_next`).
So what each kind of step keeps, every stage and every operation keeps.

Memory changes by the calls of the code, and by operations of the store that the card does between
them. So what these keep, a course keeps (`Card.Course.memory_induction`).
-/

set_option autoImplicit false
set_option relaxedAutoImplicit false

namespace SmartCard

namespace Card

variable {σ α : Type}

/-- The card after a piece of code. -/
def resume (card : Card σ) (piece : Piece σ) : Card σ :=
  { card with platform := piece.stop.platform, host := piece.stop.host }

/-- What happens to a card step by step, and which pieces of code run meanwhile. -/
inductive Course : Card σ → List (Piece σ) → Card σ → Prop where
  | refl (card : Card σ) : Course card [] card
  | trans {card middle after : Card σ} {first second : List (Piece σ)}
    (hfirst : Course card first middle) (hsecond : Course middle second after) :
    Course card (first ++ second) after
  | upkeep (card : Card σ) {operation : Store.Operation} (hupkeep : operation.isUpkeep = true) :
    Course card [] (card.mapStore (·.next operation))
  | told (card : Card σ) (host : σ) : Course card [] { card with host }
  | rearrange {card : Card σ} {channels : ChannelTable}
    (hchange : card.channels.Change card.registry channels) :
    Course card [] { card with channels }
  | run {card : Card σ} {entry : Registration σ} {piece : Piece σ}
    (hentry : entry ∈ card.registry.entries) (hcontext : piece.start.context = entry.context)
    (hplatform : piece.start.platform = card.platform) (hinstall : piece.start.install = none) :
    Course card [piece] (card.resume piece)
  | abandon {card : Card σ} {context : ContextId} {contexts : ContextTable} {piece : Piece σ}
    {params : InstallParams} (hcreate : card.platform.contexts.create = some (context, contexts))
    (hstart : piece.start = ⟨⟨context, 0, false⟩, { card.platform with contexts }, card.host,
      some ⟨params, none⟩⟩) :
    Course card [piece] ((card.resume piece).settle.discardContext context)
  | install {card : Card σ} {context : ContextId} {contexts : ContextTable} {piece : Piece σ}
    {params : InstallParams} {aid : Aid} {applet : Applet σ} {registry : Registry σ}
    (hcreate : card.platform.contexts.create = some (context, contexts))
    (hstart : piece.start = ⟨⟨context, 0, false⟩, { card.platform with contexts }, card.host,
      some ⟨params, none⟩⟩)
    (hregistered : piece.stop.install.bind (·.registered) = some aid)
    (hinsert : card.registry.insert ⟨aid, context, params, applet⟩ = .ok registry) :
    Course card [piece] { (card.resume piece).settle with registry }
  | remove {card : Card σ} {entry : Registration σ} (hentry : entry ∈ card.registry.entries)
    (hidle : card.channels.channelsOf entry.context = []) :
    Course card [] (card.evict entry.context)

namespace Course

variable {card middle after : Card σ} {pieces : List (Piece σ)}

/-- A course may end with a step that runs no code. -/
theorem quiet (hcourse : Course card pieces middle) (hquiet : Course middle [] after) :
    Course card pieces after :=
  List.append_nil pieces ▸ hcourse.trans hquiet

/-- Undoing whatever transaction is open is upkeep. -/
theorem settle (hcourse : Course card pieces middle) : Course card pieces middle.settle :=
  hcourse.quiet (@upkeep _ middle .abort rfl)

theorem clearOnDeselect (hcourse : Course card pieces middle) (context : ContextId) :
    Course card pieces (middle.clearOnDeselect context) :=
  hcourse.quiet (@upkeep _ middle (.clearOnDeselect context) rfl)

end Course

/-! ### Running code -/

variable {card : Card σ}

/-- Code that runs in the frame of a registered applet. -/
theorem course_activate {entry : Registration σ} (hentry : entry ∈ card.registry.entries)
    {frame : Frame} (hframe : frame.context = entry.context) (program : Program (services σ) α) :
    Course card [card.code frame program] (card.activate frame program).2 :=
  @Course.run _ card entry (card.code frame program) hentry hframe rfl rfl

/-! ### Stages -/

theorem course_deselect (card : Card σ) (channel : Nat) :
    Course card (card.deselectPieces channel) (card.deselect channel) := by
  unfold deselect deselectPieces
  cases card.channels.selected channel with
  | none => exact .refl card
  | some context =>
    have hcleared : Course card [] (card.setSelected channel none) :=
      .rearrange (.leave channel)
    have hforgotten : ∀ told : Card σ, ∀ pieces, Course card pieces told →
        Course card pieces (if (told.settle.channels.channelsOf context).isEmpty then
          told.settle.clearOnDeselect context else told.settle) := by
      intro told pieces htold
      split
      · exact htold.settle.clearOnDeselect context
      · exact htold.settle
    dsimp only
    cases hfound : (card.setSelected channel none).registry.inContext? context with
    | none => exact hforgotten _ _ hcleared
    | some entry =>
      obtain ⟨hentry, hcontext⟩ := mem_of_inContext? hfound
      exact hforgotten _ _ (hcleared.trans (course_activate hentry hcontext.symm _))

theorem course_refuseSelection (card : Card σ) (channel : Nat) (context : ContextId) :
    Course card [] (card.refuseSelection channel context) := by
  have hcleared : Course card [] (card.setSelected channel none) :=
    .rearrange (.leave channel)
  unfold refuseSelection
  dsimp only
  split
  · exact hcleared
  · exact hcleared.clearOnDeselect context

theorem course_install (card : Card σ) (aid : Aid) (data : List UInt8) (factory : Factory σ) :
    Course card (card.installPieces aid data factory) (card.install aid data factory).2 := by
  unfold install installPieces
  cases card.admitInstall aid data with
  | error error => exact .refl card
  | ok params =>
    dsimp only
    cases hcreate : card.platform.contexts.create with
    | none => exact .refl card
    | some created =>
      obtain ⟨context, contexts⟩ := created
      have habandon := @Course.abandon σ card context contexts
        (.code ⟨⟨context, 0, false⟩, { card.platform with contexts }, card.host,
          some ⟨params, none⟩⟩ (factory params).run) params hcreate rfl
      have hinstall := fun aid applet registry ↦ @Course.install σ card context contexts
        (.code ⟨⟨context, 0, false⟩, { card.platform with contexts }, card.host,
          some ⟨params, none⟩⟩ (factory params).run) params aid applet registry hcreate rfl
      unfold resume Piece.stop at habandon hinstall
      unfold build
      dsimp only at habandon hinstall ⊢
      generalize Program.run Session.answer (factory params).run _ = outcome
        at habandon hinstall ⊢
      obtain ⟨ending, session⟩ := outcome
      dsimp only at habandon hinstall ⊢
      cases outcome ending with
      | error error => exact habandon
      | ok applet =>
        cases hregistered : session.install.bind (·.registered) with
        | none => exact habandon
        | some registered =>
          dsimp only [bind, Except.bind]
          cases hinsert : Registry.insert _ (Registration.mk registered context params applet) with
          | error error => exact habandon
          | ok registry => exact hinstall registered applet registry hregistered hinsert

theorem course_inspect (card : Card σ) (aid : Aid) (program : Program (services σ) α) :
    Course card (card.inspectPieces aid program) (card.inspect aid program).2 := by
  unfold inspect inspectPieces
  cases hfound : card.registry.find? aid.bytes with
  | none => exact .refl card
  | some entry =>
    have hasked := @course_activate σ α card entry (List.mem_of_find?_eq_some hfound)
      ⟨entry.context, 0, false⟩ rfl program
    dsimp only
    generalize card.activate ⟨entry.context, 0, false⟩ program = outcome at hasked ⊢
    obtain ⟨_ | text, asked⟩ := outcome
    · exact hasked.settle
    · exact hasked

theorem course_reset (card : Card σ) : Course card [] card.reset :=
  ((Course.refl card).settle.quiet (@Course.upkeep _ card.settle .clearOnReset rfl)).quiet
    (.rearrange .reset)

theorem course_reply {channel : Nat} (hopen : card.channels.isOpen channel = true)
    (output : List UInt8) (accepted : Nat) :
    Course card [] (card.reply channel output accepted).2 := by
  unfold reply
  split
  · exact .rearrange (.wait hopen _)
  · exact .refl card

theorem course_process {channel : Nat} (hopen : card.channels.isOpen channel = true)
    (context : ContextId) (command : Command) (selecting : Bool) :
    Course card (card.processPieces channel context command selecting)
      (card.process channel context command selecting).2 := by
  unfold process processPieces
  cases hfound : card.registry.inContext? context with
  | none => exact .refl card
  | some entry =>
    obtain ⟨hentry, hcontext⟩ := mem_of_inContext? hfound
    have hran := (@Course.run σ card entry (.handler
      ⟨⟨context, channel, selecting⟩, card.platform, card.host, none⟩
      (Exchange.start command card.config.bufferSize selecting) entry.applet.process.run)
      hentry hcontext.symm rfl rfl).settle
    unfold resume Piece.stop at hran
    dsimp only at hran ⊢
    generalize Program.run Session.answerProcess entry.applet.process.run _ = outcome at hran ⊢
    obtain ⟨ending, session, exchange⟩ := outcome
    dsimp only at hran ⊢
    split
    · exact hran
    · split
      · exact hran
      · refine hran.quiet ?_
        exact course_reply (by exact hopen) _ _

/-- A stage for which the card is ready comes down to steps that run the piece of the stage. -/
theorem course_perform {card : Card σ} {stage : Stage σ} (hready : stage.IsReady card) :
    Course card (card.stagePieces stage) (card.perform stage) := by
  cases stage with
  | wait channel bytes => exact .rearrange (.wait hready bytes)
  | reserve channel => exact .rearrange (.markOpen channel)
  | shut channel => exact .rearrange (.close channel)
  | leave channel => exact card.course_deselect channel
  | enter channel entry =>
    obtain ⟨hentry, hopen, halone⟩ := hready
    have hprepared : Course card [] (card.setSelected channel (some entry.context)) :=
      .rearrange (.take hentry hopen halone)
    have hseated : entry ∈ (card.setSelected channel (some entry.context)).registry.entries :=
      hentry
    have hasked := hprepared.trans (@course_activate σ _ _ entry hseated
      ⟨entry.context, channel, true⟩ rfl entry.applet.select)
    rw [perform]
    unfold seat
    dsimp only
    generalize Card.activate _ _ entry.applet.select = outcome at hasked ⊢
    obtain ⟨(_ | _) | _, asked⟩ := outcome
    · exact hasked.settle.quiet (course_refuseSelection _ channel entry.context)
    · exact hasked.settle
    · exact hasked.settle.quiet (course_refuseSelection _ channel entry.context)
  | handle context command selecting => exact course_process hready.1 context command selecting
  | install aid data factory => exact card.course_install aid data factory
  | expel entry =>
    have htold := @course_activate σ _ card entry hready.1 ⟨entry.context, 0, false⟩ rfl
      entry.applet.uninstall
    exact htold.settle.quiet (.remove hready.1 hready.2)
  | inspect aid program => exact card.course_inspect aid program
  | reset => exact card.course_reset
  | adjust change =>
    obtain ⟨writes, rfl⟩ | rfl := hready
    · exact @Course.upkeep _ card (.arm writes) rfl
    · exact @Course.upkeep _ card .disarm rfl
  | tell host => exact .told card host

/-- So do stages one after another. -/
theorem course_along {stages : List (Stage σ)} (hready : IsReady card stages) :
    Course card (card.piecesAlong stages) (stages.foldl perform card) := by
  induction stages generalizing card with
  | nil => exact .refl card
  | cons stage rest ih =>
    obtain ⟨hfirst, hrest⟩ := List.forall_mem_cons.mp hready
    exact (course_perform hfirst).trans (ih hrest)

/-! ### Every operation -/

/-- An operation is a course of steps that runs just its pieces of code. -/
theorem course_next (card : Card σ) (operation : Operation σ) :
    Course card (card.pieces operation) (card.next operation) :=
  card.foldl_stages operation ▸ course_along (card.isReady_stages operation)

/-- A run of operations is a course. -/
theorem course_foldl (card : Card σ) (operations : List (Operation σ)) :
    Course card (card.runPieces operations) (operations.foldl next card) := by
  induction operations generalizing card with
  | nil => exact .refl card
  | cons operation rest ih => exact (course_next card operation).trans (ih (card.next operation))

/-- Nothing that happens to a card changes its configuration. -/
theorem Course.config_eq {card after : Card σ} {pieces : List (Piece σ)}
    (hcourse : Course card pieces after) : after.config = card.config := by
  induction hcourse with
  | trans _ _ ihfirst ihsecond => exact ihsecond.trans ihfirst
  | _ => rfl

theorem config_next (card : Card σ) (operation : Operation σ) :
    (card.next operation).config = card.config :=
  (course_next card operation).config_eq

theorem config_foldl (card : Card σ) (operations : List (Operation σ)) :
    (operations.foldl next card).config = card.config :=
  (course_foldl card operations).config_eq

/-! ### Memory along a course -/

/-- What every operation of the store keeps, a call keeps. -/
theorem store_after {property : Store → Prop}
    (hnext : ∀ {store} operation, property store → property (store.next operation))
    {call : Call σ} (hcall : property call.session.platform.store) :
    property call.after.platform.store := by
  rw [Call.after, Session.store_answer]
  cases call.session.operation? call.service with
  | none => exact hcall
  | some operation => exact hnext operation hcall

section Memory

variable {property : List (Call σ) → Store → Prop}
  (hcall : ∀ {history call}, property history call.session.platform.store →
    property (history ++ [call]) call.after.platform.store)
  (hbetween : ∀ {history store} operation, property history store →
    property history (store.next operation))

include hcall hbetween

/-- What every call keeps, as the calls made grow by it, and every operation of the store between
calls, a whole course keeps. -/
theorem Course.memory_induction {card after : Card σ} {pieces : List (Piece σ)}
    (hcourse : Course card pieces after) {history : List (Call σ)}
    (hstart : property history card.platform.store) :
    property (history ++ pieces.flatMap Piece.calls) after.platform.store := by
  have hsame : ∀ {history store}, property history store →
      property (history ++ ([] : List (Piece σ)).flatMap Piece.calls) store :=
    fun {history _} hkept ↦ (List.append_nil history).symm ▸ hkept
  have hpiece : ∀ {history} (piece : Piece σ), property history piece.start.platform.store →
      property (history ++ [piece].flatMap Piece.calls) piece.stop.platform.store := by
    intro history piece hkept
    rw [List.flatMap_singleton]
    exact @Piece.induction σ (fun made session ↦ property made session.platform.store)
      (fun _ _ ↦ hcall) piece history hkept
  induction hcourse generalizing history with
  | refl => exact hsame hstart
  | trans _ _ ihfirst ihsecond =>
    rw [List.flatMap_append, ← List.append_assoc]
    exact ihsecond (ihfirst hstart)
  | upkeep => exact hsame (hbetween _ hstart)
  | told | rearrange => exact hsame hstart
  | @run card entry piece hentry hcontext hplatform hinstall =>
    exact hpiece piece (hplatform ▸ hstart)
  | @abandon card fresh contexts piece params hcreate hbegin =>
    have hstop := hpiece piece (by rw [hbegin]; exact hstart)
    exact hbetween (.releaseOwnedBy fresh) (hbetween .abort hstop)
  | @install card fresh contexts piece params aid applet registry hcreate hbegin hregistered
      hinsert =>
    have hstop := hpiece piece (by rw [hbegin]; exact hstart)
    exact hbetween .abort hstop
  | @remove card entry hentry hidle =>
    exact hsame (hbetween (.releaseOwnedBy entry.context) hstart)

/-- So does every run of operations. -/
theorem memory_foldl {card : Card σ} (operations : List (Operation σ)) {history : List (Call σ)}
    (hstart : property history card.platform.store) :
    property (history ++ card.trace operations)
      (operations.foldl Card.next card).platform.store := by
  induction operations generalizing card history with
  | nil => exact (List.append_nil history).symm ▸ hstart
  | cons operation rest ih =>
    rw [trace, ← List.append_assoc]
    exact ih ((course_next card operation).memory_induction hcall hbetween hstart)

end Memory

section Store

variable {property : Store → Prop}
  (hnext : ∀ {store} operation, property store → property (store.next operation))

include hnext

/-- What every operation of the store keeps, a course keeps. -/
theorem Course.store_induction {card after : Card σ} {pieces : List (Piece σ)}
    (hcourse : Course card pieces after) (hstart : property card.platform.store) :
    property after.platform.store :=
  @Course.memory_induction σ (fun _ ↦ property) (store_after hnext) hnext card after pieces hcourse
    [] hstart

/-- What every operation of the store keeps, a run of operations keeps, and so has every call
found it. -/
theorem store_foldl {card : Card σ} (hstart : property card.platform.store)
    (operations : List (Operation σ)) :
    property (operations.foldl Card.next card).platform.store ∧
      ∀ call ∈ card.trace operations, property call.session.platform.store := by
  refine @memory_foldl σ
    (fun made store ↦ property store ∧ ∀ call ∈ made, property call.session.platform.store)
    ?call ?between card operations [] ⟨hstart, List.forall_mem_nil _⟩
  case call =>
    rintro made call ⟨hfound, hmade⟩
    exact ⟨store_after hnext hfound,
      List.forall_mem_append.mpr ⟨hmade, List.forall_mem_singleton.mpr hfound⟩⟩
  case between =>
    rintro made store operation ⟨hkept, hmade⟩
    exact ⟨hnext operation hkept, hmade⟩

end Store

end Card

end SmartCard

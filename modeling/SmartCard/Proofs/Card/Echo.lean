import SmartCard.Proofs.Applet.Hello
import SmartCard.Proofs.Card.Chaining
import SmartCard.Proofs.Card.Endurance
import SmartCard.Proofs.Card.Handling
import SmartCard.Proofs.Card.Permission
import SmartCard.Proofs.Card.Retention

/-!
# Echoes, and what is remembered of them

The sender of a command gathers the response from the reply to it and from the replies to the
commands that fetch the rest (`Portion.gathered`). Where the hello applet is selected, an echo of at
most 255 bytes is answered with just these bytes, whatever has been done to the card before.

What the applet remembers is read off the run without a look at memory (`Card.remembered`): the
message of the last echo that was answered to have gone well, unless the applet has been deselected
or the card reset since. The applet does remember this (`Card.Recalls.run`), for an operation does
one of two things. It may be an echo that is not too long, and then `Card.Recalls.echo` says what
comes of it, or all its stages overlook the array (`Card.overlooks_stages`), which then stays as it
is or lapses (`Card.Retains.foldl_perform`). Together this is `Card.echoes_conveyed`.
-/

set_option autoImplicit false
set_option relaxedAutoImplicit false

namespace SmartCard

/-! ### Gathering a response -/

namespace Portion

/-- Whether a reply says that more bytes are left. -/
def hasMore (portion : Portion) : Bool :=
  portion.status.head? == some 0x61

/-- Whether a reply says that all went well. -/
def isSuccess (portion : Portion) : Bool :=
  portion.isLast || portion.hasMore

/-- The data of replies one after another, up to the one that says that nothing is left. -/
def gathered : List Portion → Option (List UInt8)
  | [] => none
  | portion :: rest =>
    if portion.isLast then some portion.data
    else if portion.hasMore then (gathered rest).map (portion.data ++ ·)
    else none

/-- Whether replies convey a message: nothing else can be gathered from them, all of them say that
more is left as long as nothing can be gathered, and the message can be gathered as soon as there
are as many replies as it has bytes. -/
structure Conveys (portions : List Portion) (message : List UInt8) : Prop where
  faithful : ∀ received, gathered portions = some received → received = message
  unfinished : gathered portions = none → ∀ portion ∈ portions, portion.hasMore = true
  complete : message.length ≤ portions.length → gathered portions = some message

variable {portion : Portion} {waiting output : List UInt8} {portions : List Portion}

/-- A reply that is not the last says that more is left. -/
theorem hasMore_of_isLast_eq_false (hreply : portion.reply = Card.replyTo portion.accepted waiting)
    (hlast : portion.isLast = false) : portion.hasMore = true := by
  have hshort := (isLast_eq_false_iff hreply).mp hlast
  rw [hasMore, status_eq hreply, if_pos hshort, toBytes_bytesRemaining]
  rfl

/-- Replies that answer with bytes that are there say that all went well. -/
theorem isSuccess_of_replyTo (hreply : portion.reply = Card.replyTo portion.accepted waiting) :
    portion.isSuccess = true := by
  unfold isSuccess
  cases hlast : portion.isLast with
  | true => rfl
  | false => exact hasMore_of_isLast_eq_false hreply hlast

/-- The replies that deliver an output convey it. -/
theorem Delivers.conveys (hdelivers : Delivers output portions) (hsome : portions ≠ []) :
    Conveys portions output := by
  induction portions generalizing output with
  | nil => exact absurd rfl hsome
  | cons head rest ih =>
    obtain ⟨haccepted, hreply, hrest⟩ := hdelivers
    have hdata := data_eq hreply
    cases hlast : head.isLast with
    | true =>
      have hwhole : head.data = output := by
        rw [hdata]
        refine List.take_of_length_le (Nat.not_lt.mp fun hshort ↦ ?_)
        rw [(isLast_eq_false_iff hreply).mpr hshort] at hlast
        cases hlast
      have hgathered : gathered (head :: rest) = some output := by
        rw [gathered, if_pos hlast, hwhole]
      refine ⟨fun received hreceived ↦ Option.some.inj (hreceived.symm.trans hgathered),
        fun hnothing ↦ ?_, fun _ ↦ hgathered⟩
      rw [hgathered] at hnothing
      cases hnothing
    | false =>
      have hshort := (isLast_eq_false_iff hreply).mp hlast
      have hmore := hasMore_of_isLast_eq_false hreply hlast
      have hgathered : gathered (head :: rest) = (gathered rest).map (head.data ++ ·) := by
        rw [gathered, hlast, hmore, if_neg Bool.false_ne_true, if_pos rfl]
      have hjoined : head.data ++ output.drop head.accepted = output := by
        rw [hdata, List.take_append_drop]
      by_cases hnone : rest = []
      · subst hnone
        refine ⟨fun received hreceived ↦ ?_, fun _ ↦ List.forall_mem_singleton.mpr hmore,
          fun hmany ↦ ?_⟩
        · rw [hgathered] at hreceived
          cases hreceived
        · rw [List.length_singleton] at hmany
          omega
      · obtain ⟨hfaithful, hunfinished, hcomplete⟩ := ih (hrest hshort) hnone
        refine ⟨fun received hreceived ↦ ?_, fun hnothing ↦ ?_, fun hmany ↦ ?_⟩
        · rw [hgathered, Option.map_eq_some_iff] at hreceived
          obtain ⟨later, hlater, rfl⟩ := hreceived
          rw [hfaithful later hlater, hjoined]
        · rw [hgathered, Option.map_eq_none_iff] at hnothing
          exact List.forall_mem_cons.mpr ⟨hmore, hunfinished hnothing⟩
        · rw [List.length_cons] at hmany
          rw [hgathered, hcomplete (by rw [List.length_drop]; omega), Option.map_some, hjoined]

end Portion

namespace Card

variable {σ : Type} {card : Card σ} {config : Config} {entry : Registration σ} {arrays : Hello}
  {raw message : List UInt8} {command : Command} {context : ContextId} {operation : Operation σ}
  {followers : List (Operation σ)}

/-! ### Commands to an applet and their response -/

/-- Whether some bytes are a command on a channel on which the applet in a context is selected. -/
structure Receives (card : Card σ) (context : ContextId) (raw : List UInt8) (command : Command) :
    Prop where
  parse_eq : Command.parse raw card.config.extendedLength = .ok command
  class_ne : command.classByte ≠ invalidClass
  selected_eq : card.channels.selected command.channel = some context

/-- The replies to a command and to those that fetch the rest of its response. -/
def portions (card : Card σ) (raw : List UInt8) (command : Command)
    (followers : List (Operation σ)) : List Portion :=
  ⟨command.accepted, (card.transmit raw).1⟩ ::
    fetched command.channel (card.transmit raw).2 followers

/-- The session in which the applet in a context handles a command. -/
def sessionFor (card : Card σ) (context : ContextId) (command : Command) : Session σ :=
  ⟨⟨context, command.channel, false⟩, card.platform, card.host, none⟩

/-- With no transaction left open, the card is left with the store that the applet leaves. -/
theorem Answers.platform_of_idle {result : Except CardError Unit} {store : Store} {left : Exchange}
    (hanswers : card.Answers raw command result ((card.sessionFor context command).withStore store)
      left) (hidle : store.transaction.isActive = false) :
    (card.transmit raw).2.platform = ⟨store, card.platform.contexts⟩ :=
  hanswers.platform_eq.trans
    (congrArg (Platform.mk · card.platform.contexts) (Store.settle_of_idle hidle))

/-- A command received is left to the applet unless the card may answer it by itself. -/
theorem Receives.route (hreceives : card.Receives context raw command)
    (hcoheres : card.Coheres config) (hinstruction : command.instruction ∉
      [Command.getResponseInstruction, Command.manageChannelInstruction,
        Command.selectInstruction]) :
    (card.route command).1 = .ok (.handled context false) :=
  route_of_selected ⟨hreceives.class_ne, hinstruction⟩
    (hcoheres.isOpen_of_selected hreceives.selected_eq) hreceives.selected_eq

/-- What the code of the applet ends with is delivered. -/
theorem conveys_portions (hparse : Command.parse raw card.config.extendedLength = .ok command)
    (hroute : (card.route command).1 = .ok (.handled context false))
    (hfound : card.registry.inContext? context = some entry) {after : Session σ} {left : Exchange}
    {output : List UInt8}
    (hhandle : (card.sessionFor context command).handle
      (Exchange.start command card.config.bufferSize false) entry.applet.process =
        (.value (.ok ()), after, left))
    (hfinish : left.finish = .ok output)
    (honly : OnlyFetches command.channel (card.transmit raw).2 followers) :
    Portion.Conveys (card.portions raw command followers) output := by
  have hrouted := route_of_handled hroute
  set taken : Card σ := { card with channels := card.channels.setPending command.channel [] }
  have hrun : entry.applet.process.run.run Session.answerProcess
      (⟨⟨context, command.channel, false⟩, taken.platform, taken.host, none⟩,
        Exchange.start command taken.config.bufferSize false) =
          (.value (.ok ()), after, left) := hhandle
  have houtput : taken.output? context command false = some output := by
    unfold output?
    rw [show taken.registry.inContext? context = some entry from hfound]
    dsimp only
    rw [hrun, outcome]
    dsimp only
    rw [hfinish]
    rfl
  obtain ⟨hreply, hopen, hpending⟩ := transmit_of_handled hparse hrouted houtput
  have hdelivers : Portion.Delivers output (card.portions raw command followers) := by
    refine ⟨Command.accepted_pos hparse, hreply, fun hshort ↦ ?_⟩
    have hleft : (card.transmit raw).2.channels.pending command.channel ≠ [] := by
      rw [hpending, ne_eq, List.drop_eq_nil_iff]
      exact Nat.not_le.mpr hshort
    rw [← hpending]
    exact delivers_fetched hopen hleft honly
  exact hdelivers.conveys (List.cons_ne_nil _ _)

/-! ### Hello applets -/

/-- Whether an applet is a hello applet that has its array, whatever there is in it and whoever has
been granted it. -/
structure Hosts (card : Card σ) (entry : Registration σ) (arrays : Hello) : Prop where
  reachable : card.Reachable
  registered : entry ∈ card.registry.entries
  applet_eq : entry.applet = arrays.applet
  found : ∃ grants head tail, card.platform.store.heap.find? arrays.lastEcho.id =
    some (Hello.echoRegion entry.context grants (head :: tail))

theorem Hosts.process_eq (hhosts : card.Hosts entry arrays) :
    entry.applet.process = arrays.process := by
  rw [hhosts.applet_eq]
  rfl

/-- Echoes are commands for the applet. -/
theorem Receives.route_of_echo (hreceives : card.Receives context raw command)
    (hcoheres : card.Coheres config) (hinstruction : command.instruction = Hello.echoInstruction) :
    (card.route command).1 = .ok (.handled context false) :=
  hreceives.route hcoheres (by rw [hinstruction]; decide)

/-- An echo that is not too long is answered with its data. -/
theorem Hosts.conveys_echo (hhosts : card.Hosts entry arrays)
    (hreceives : card.Receives entry.context raw command)
    (hinstruction : command.instruction = Hello.echoInstruction)
    (hlength : command.data.length ≤ Hello.echoCapacity)
    (honly : OnlyFetches command.channel (card.transmit raw).2 followers) :
    Portion.Conveys (card.portions raw command followers) command.data := by
  obtain ⟨config, hcoheres⟩ := hhosts.reachable.exists_coheres
  obtain ⟨grants, head, tail, hfind⟩ := hhosts.found
  obtain ⟨heap, left, rest, hhandle, hfinish, -⟩ := Hello.handle_echo
    (card.sessionFor entry.context command) hfind hlength card.config.bufferSize
  rw [← Hello.handle_process_of_echo _ hinstruction, ← hhosts.process_eq] at hhandle
  exact conveys_portions hreceives.parse_eq (hreceives.route_of_echo hcoheres hinstruction)
    (hcoheres.inContext?_eq_some hhosts.registered) hhandle hfinish honly

/-- One that is too long is refused. -/
theorem Hosts.refuses_echo (hhosts : card.Hosts entry arrays)
    (hparse : Command.parse raw card.config.extendedLength = .ok command)
    (hroute : (card.route command).1 = .ok (.handled entry.context false))
    (hinstruction : command.instruction = Hello.echoInstruction)
    (hlong : Hello.echoCapacity < command.data.length) :
    (card.transmit raw).1 = StatusWord.wrongLength.toBytes := by
  obtain ⟨config, hcoheres⟩ := hhosts.reachable.exists_coheres
  obtain ⟨left, hhandle⟩ := Hello.handle_echo_of_long (card.sessionFor entry.context command)
    hlong card.config.bufferSize false
  rw [← Hello.handle_process_of_echo _ hinstruction, ← hhosts.process_eq] at hhandle
  exact (transmit_of_selected hparse hroute (hcoheres.inContext?_eq_some hhosts.registered)
    hhandle).reply_eq

/-! ### What is remembered -/

/-- The message that an operation echoes, if it is an echo for the applet in a context and is
answered that all went well. -/
def echoed? (card : Card σ) (context : ContextId) : Operation σ → Option (List UInt8)
  | .transmit raw =>
    match Command.parse raw card.config.extendedLength with
    | .error _ => none
    | .ok command =>
      if (card.route command).1 = .ok (.handled context false) ∧
          command.instruction = Hello.echoInstruction ∧
          Portion.isSuccess ⟨command.accepted, (card.transmit raw).1⟩ = true then
        some command.data
      else none
  | _ => none

/-- The message remembered after an operation: that of an echo; or none, if the applet is deselected
or the card reset; or else the one before. -/
def remember (card : Card σ) (context : ContextId) (message : List UInt8)
    (operation : Operation σ) : List UInt8 :=
  match card.echoed? context operation with
  | some echoed => echoed
  | none => if card.hasLapse context (card.stages operation) then [] else message

/-- The message remembered after a run. -/
def remembered (card : Card σ) (context : ContextId) (message : List UInt8) :
    List (Operation σ) → List UInt8
  | [] => message
  | operation :: rest =>
    (card.next operation).remembered context (card.remember context message operation) rest

/-- Whether an applet is a hello applet that has its array to itself, with a message in it. -/
structure Recalls (card : Card σ) (entry : Registration σ) (arrays : Hello)
    (message : List UInt8) : Prop where
  reachable : card.Reachable
  applet_eq : entry.applet = arrays.applet
  distinct : arrays.greetings.id ≠ arrays.lastEcho.id
  retains : ∃ region, card.Retains entry arrays.lastEcho.id region ∧
    Hello.Remembers region entry.context message

theorem Recalls.hosts (hrecalls : card.Recalls entry arrays message) :
    card.Hosts entry arrays := by
  obtain ⟨region, hretains, -, rest, rfl⟩ := hrecalls.retains
  exact ⟨hrecalls.reachable, hretains.registered, hrecalls.applet_eq, [], _, _,
    hretains.keeps.store.found⟩

/-- An echo that is not too long is answered that all went well, and remembered. -/
theorem Recalls.echo (hrecalls : card.Recalls entry arrays message)
    (hparse : Command.parse raw card.config.extendedLength = .ok command)
    (hroute : (card.route command).1 = .ok (.handled entry.context false))
    (hinstruction : command.instruction = Hello.echoInstruction)
    (hlength : command.data.length ≤ Hello.echoCapacity) :
    Portion.isSuccess ⟨command.accepted, (card.transmit raw).1⟩ = true ∧
      (card.transmit raw).2.Recalls entry arrays command.data := by
  obtain ⟨config, hcoheres⟩ := hrecalls.reachable.exists_coheres
  obtain ⟨region, hretains, -, former, rfl⟩ := hrecalls.retains
  obtain ⟨heap, left, rest, hhandle, hfinish, hfound⟩ := Hello.handle_echo
    (card.sessionFor entry.context command) hretains.keeps.store.found hlength
    card.config.bufferSize
  rw [← Hello.handle_process_of_echo _ hinstruction, ← hrecalls.hosts.process_eq] at hhandle
  have hanswers := transmit_of_selected hparse hroute
    (hcoheres.inContext?_eq_some hretains.registered) hhandle
  have hreach : (card.transmit raw).2.Reachable :=
    @Reachable.next σ card hrecalls.reachable (.transmit raw) trivial
  have hsettled := hanswers.platform_of_idle
    (Store.depth_eq_zero_iff.mp hrecalls.reachable.rests.depth_eq)
  refine ⟨Portion.isSuccess_of_replyTo (hanswers.reply_eq.trans (replyOf_of_finish hfinish _)),
    hreach, hrecalls.applet_eq, hrecalls.distinct, _, ?_, hlength, rest, rfl⟩
  exact {
    registered := hanswers.registry_eq ▸ hretains.registered
    single := hretains.single
    owner_eq := rfl
    lifetime_eq := rfl
    grants_eq := rfl
    keeps := ⟨hreach.rests.keeps (hsettled ▸ hfound), hsettled ▸ hretains.keeps.unoffered⟩ }

/-- Stages that leave to the applet no echo that could go well do nothing to its array but clear
it. -/
theorem tolerates_of_overlooks {stage : Stage σ} (happlet : entry.applet = arrays.applet)
    (hdistinct : arrays.greetings.id ≠ arrays.lastEcho.id)
    (hoverlooks : stage.Overlooks card entry.context arrays.lastEcho.id fun command selecting ↦
      selecting = true ∨ command.instruction ≠ Hello.echoInstruction ∨
        Hello.echoCapacity < command.data.length) :
    stage.Tolerates card entry arrays.lastEcho.id :=
  Stage.tolerates_of_spares fun _ ↦ hoverlooks.spares happlet
    fun hother _ bufferSize hkeeps ↦ Hello.keeps_process hdistinct hkeeps hother bufferSize

/-- An operation that is no such echo leaves what is remembered, unless that lapses. -/
theorem Recalls.pass (hrecalls : card.Recalls entry arrays message)
    (hpermits : card.Permits entry.aid arrays.lastEcho.id operation)
    (hharmless : ∀ {raw command selecting}, operation = .transmit raw →
      Command.parse raw card.config.extendedLength = .ok command →
      (card.route command).1 = .ok (.handled entry.context selecting) →
      selecting = true ∨ command.instruction ≠ Hello.echoInstruction ∨
        Hello.echoCapacity < command.data.length) :
    (card.next operation).Recalls entry arrays
      (if card.hasLapse entry.context (card.stages operation) then [] else message) := by
  obtain ⟨config, hcoheres⟩ := hrecalls.reachable.exists_coheres
  obtain ⟨region, hretains, hremembers⟩ := hrecalls.retains
  have hlater := hretains.foldl_perform hcoheres (card.isReady_stages operation) fun scene hscene ↦
    tolerates_of_overlooks hrecalls.applet_eq hrecalls.distinct
      (overlooks_stages hretains.registered hcoheres hpermits hharmless scene hscene)
  rw [foldl_stages] at hlater
  refine ⟨.next hrecalls.reachable hpermits.returns, hrecalls.applet_eq, hrecalls.distinct, _,
    hlater, ?_⟩
  split
  · exact hremembers.forgotten
  · exact hremembers

/-- So an operation leaves remembered what it should. -/
theorem Recalls.next (hrecalls : card.Recalls entry arrays message)
    (hpermits : card.Permits entry.aid arrays.lastEcho.id operation) :
    (card.next operation).Recalls entry arrays
      (card.remember entry.context message operation) := by
  by_cases hechoes : ∃ raw command, operation = .transmit raw ∧
      Command.parse raw card.config.extendedLength = .ok command ∧
      (card.route command).1 = .ok (.handled entry.context false) ∧
      command.instruction = Hello.echoInstruction ∧
      command.data.length ≤ Hello.echoCapacity
  · obtain ⟨raw, command, rfl, hparse, hroute, hinstruction, hlength⟩ := hechoes
    obtain ⟨hsuccess, hafter⟩ := hrecalls.echo hparse hroute hinstruction hlength
    have hechoed : card.echoed? entry.context (.transmit raw) = some command.data := by
      rw [echoed?, hparse]
      exact if_pos ⟨hroute, hinstruction, hsuccess⟩
    rw [remember, hechoed]
    exact hafter
  · have hnone : card.echoed? entry.context operation = none := by
      cases operation with
      | transmit raw =>
        rw [echoed?]
        cases hparse : Command.parse raw card.config.extendedLength with
        | error word => rfl
        | ok command =>
          refine if_neg ?_
          rintro ⟨hroute, hinstruction, hsuccess⟩
          -- an echo that is too long is refused, and no refusal reads as success
          have hlong : Hello.echoCapacity < command.data.length := Nat.not_le.mp fun hlength ↦
            hechoes ⟨raw, command, rfl, hparse, hroute, hinstruction, hlength⟩
          rw [hrecalls.hosts.refuses_echo hparse hroute hinstruction hlong] at hsuccess
          cases hsuccess
      | _ => rfl
    rw [remember, hnone]
    refine hrecalls.pass hpermits fun {raw command selecting} hoperation hparse hroute ↦ ?_
    cases selecting with
    | true => exact .inl rfl
    | false =>
      by_cases hinstruction : command.instruction = Hello.echoInstruction
      · exact .inr (.inr (Nat.not_le.mp fun hlength ↦
          hechoes ⟨raw, command, hoperation, hparse, hroute, hinstruction, hlength⟩))
      · exact .inr (.inl hinstruction)

/-- And so does a run. -/
theorem Recalls.run {operations : List (Operation σ)}
    (hrecalls : card.Recalls entry arrays message)
    (hundisturbed : card.Undisturbed entry.aid arrays.lastEcho.id operations) :
    (operations.foldl Card.next card).Recalls entry arrays
      (card.remembered entry.context message operations) := by
  induction operations generalizing card message with
  | nil => exact hrecalls
  | cons operation rest ih =>
    obtain ⟨hpermits, hrest⟩ := hundisturbed
    exact ih (hrecalls.next hpermits) hrest

/-- A command without data that asks for the last echo is answered with what is remembered. -/
theorem Recalls.conveys_lastEcho (hrecalls : card.Recalls entry arrays message)
    (hreceives : card.Receives entry.context raw command)
    (hinstruction : command.instruction = Hello.lastEchoInstruction) (hdata : command.data = [])
    (honly : OnlyFetches command.channel (card.transmit raw).2 followers) :
    Portion.Conveys (card.portions raw command followers) message := by
  obtain ⟨config, hcoheres⟩ := hrecalls.reachable.exists_coheres
  obtain ⟨region, hretains, hremembers⟩ := hrecalls.retains
  obtain ⟨left, hhandle, hfinish⟩ := Hello.handle_repeatEcho
    (card.sessionFor entry.context command) hretains.keeps.store.found hremembers hdata
    card.config.bufferSize
  rw [← Hello.handle_process_of_lastEcho _ hinstruction, ← hrecalls.hosts.process_eq] at hhandle
  exact conveys_portions hreceives.parse_eq
    (hreceives.route hcoheres (by rw [hinstruction]; decide))
    (hcoheres.inContext?_eq_some hretains.registered) hhandle hfinish honly

/-! ### The hello applet that is installed -/

/-- A hello applet that has been installed remembers the empty message. -/
theorem Reachable.recalls_installed {installed : Card σ} {aid : Aid} {data : List UInt8}
    (hreach : card.Reachable)
    (hinstalled : card.install aid data Hello.install = (.ok context, installed)) :
    ∃ entry : Registration σ, entry.aid = aid ∧ entry.context = context ∧
      installed.Recalls entry (Hello.upcoming card.platform.store.heap context) [] := by
  obtain ⟨params, applet, first, after, -, hstore, hidle, rfl, hplay, hfurnished⟩ :=
    hreach.exists_furnished hinstalled
  rw [← hstore]
  have hopens := Hello.play_install hidle hplay
  obtain ⟨entry, hregistered, haid, hcontext, rfl, hkeeps⟩ :=
    hfurnished ⟨Nat.le_refl _, hopens.idle, hopens.found, hopens.exports_eq, hopens.registered_eq⟩
  rw [← hcontext] at hkeeps
  refine ⟨entry, haid, hcontext, hreach.installed hinstalled, hopens.applet_eq, Nat.succ_ne_self _,
    _, ?_, Hello.remembers_fresh entry.context⟩
  have hsingle : entry.applet.multiSelectable = false := by
    rw [hopens.applet_eq]
    rfl
  exact ⟨hregistered, hsingle, rfl, rfl, rfl, hkeeps⟩

/-- It is one with its array as long as it is registered, whatever is done to the card. -/
theorem Recalls.hosts_of_leadsTo {reached : Card σ} (hrecalls : card.Recalls entry arrays message)
    (hleads : card.LeadsTo reached) {channel : Nat}
    (hselected : reached.channels.selected channel = some entry.context) :
    reached.Hosts entry arrays := by
  obtain ⟨region, hretains, -, rest, rfl⟩ := hrecalls.retains
  have hreach := hleads.reachable hrecalls.reachable
  obtain ⟨config, hcoheres⟩ := hreach.exists_coheres
  obtain ⟨found, hfound, hcontext⟩ := hcoheres.seats.registered hselected
  have howns : card.Owns entry arrays.lastEcho.id
      (.fresh entry.context .clearOnDeselect .byte (Hello.echoCapacity + 1)) :=
    ⟨hretains.registered, hretains.keeps.store.wellFormed, ⟨_, hretains.keeps.store.found, rfl⟩,
      hretains.keeps.store.old⟩
  obtain ⟨hregistered, hwellFormed, ⟨later, hlater, horiginal⟩, -⟩ :=
    (hleads.owns hrecalls.reachable rfl howns).resolve_right fun hretired ↦
      hretired.not_registered found hfound hcontext
  obtain ⟨head, tail, hbytes⟩ := Hello.exists_bytes hwellFormed.heap hlater horiginal
  exact ⟨hreach, hregistered, hrecalls.applet_eq, later.grants, head, tail, hbytes ▸ hlater⟩

/-- A run that leaves an array to its applet is one that comes to its end. -/
theorem Undisturbed.leadsTo {aid : Aid} {id : Nat} {operations : List (Operation σ)}
    {origin : Card σ} (hleads : origin.LeadsTo card)
    (hundisturbed : card.Undisturbed aid id operations) :
    origin.LeadsTo (operations.foldl Card.next card) := by
  induction operations generalizing card with
  | nil => exact hleads
  | cons operation rest ih => exact ih (.next hleads hundisturbed.1.returns) hundisturbed.2

/-! ### The echo law -/

/-- Whether the applet in a context, wherever it is selected, echoes every message that is not too
long, and refuses every other one. -/
structure Echoes (card : Card σ) (context : ContextId) : Prop where
  answers : ∀ raw, card.attempt? raw = some (card.transmit raw)
  conveys : ∀ {raw command followers}, card.Receives context raw command →
    command.instruction = Hello.echoInstruction → command.data.length ≤ Hello.echoCapacity →
      OnlyFetches command.channel (card.transmit raw).2 followers →
        Portion.Conveys (card.portions raw command followers) command.data
  refuses : ∀ {raw command}, card.Receives context raw command →
    command.instruction = Hello.echoInstruction → Hello.echoCapacity < command.data.length →
      (card.transmit raw).1 = StatusWord.wrongLength.toBytes

/-- Whether the applet in a context, wherever it is selected, repeats a message. -/
def Repeats (card : Card σ) (context : ContextId) (message : List UInt8) : Prop :=
  ∀ {raw command followers}, card.Receives context raw command →
    command.instruction = Hello.lastEchoInstruction → command.data = [] →
      OnlyFetches command.channel (card.transmit raw).2 followers →
        Portion.Conveys (card.portions raw command followers) message

/-- A hello applet echoes every message of at most 255 bytes, whatever is done to the card on which
it has been installed, as long as buffers of the size configured can be laid out. And as long as its
array is not written to or given away by code that looks at memory, it repeats the message of the
last echo that was answered to have gone well, or none if there has been none since it was last
deselected or the card reset. -/
theorem echoes_conveyed {installed : Card σ} {aid : Aid} {data : List UInt8}
    (hreach : card.Reachable) (hbuffer : card.config.bufferSize < blockLimit)
    (hinstalled : card.install aid data Hello.install = (.ok context, installed)) :
    (∀ reached : Card σ, installed.LeadsTo reached → reached.Echoes context) ∧
    ∀ operations : List (Operation σ),
      installed.Undisturbed aid (Hello.upcoming card.platform.store.heap context).lastEcho.id
        operations →
      (operations.foldl next installed).Echoes context ∧
      (operations.foldl next installed).Repeats context
        (installed.remembered context [] operations) := by
  obtain ⟨entry, rfl, rfl, hrecalls⟩ := hreach.recalls_installed hinstalled
  have hechoes : ∀ reached : Card σ, installed.LeadsTo reached → reached.Echoes entry.context := by
    intro reached hleads
    have hconfig : reached.config = card.config := by
      induction hleads with
      | refl =>
        have hnext := card.config_next (.install entry.aid data Hello.install)
        rw [Card.next, hinstalled] at hnext
        exact hnext
      | next _ _ ih => exact (config_next _ _).trans ih
    constructor
    case answers => exact fun raw ↦ attempt?_eq_some (hconfig ▸ hbuffer) raw
    case conveys =>
      intro raw command followers hreceives
      exact (hrecalls.hosts_of_leadsTo hleads hreceives.selected_eq).conveys_echo hreceives
    case refuses =>
      intro raw command hreceives hinstruction
      have hhosts := hrecalls.hosts_of_leadsTo hleads hreceives.selected_eq
      obtain ⟨config, hcoheres⟩ := hhosts.reachable.exists_coheres
      exact hhosts.refuses_echo hreceives.parse_eq
        (hreceives.route_of_echo hcoheres hinstruction) hinstruction
  refine ⟨hechoes, fun operations hundisturbed ↦ ⟨hechoes _ (hundisturbed.leadsTo .refl), ?_⟩⟩
  exact (hrecalls.run hundisturbed).conveys_lastEcho

/-- An echo of three bytes after one of five, repeated two bytes at a time; after another selection
of the applet there is nothing to repeat. -/
theorem echoes_conveyed_shorter :
    let config : Config := { atr := "3B" }
    let card : Card Unit := {
      config := config
      atr := [0x3B]
      platform := ⟨.empty config.quotas config.commitCapacity, .initial⟩
      registry := .empty config.maxApplets
      channels := .initial config.logicalChannels
      host := () }
    let aid : Aid := ⟨[0xA0, 0, 0, 0, 1], by decide, by decide⟩
    let installed := (card.install aid [] Hello.install).2
    let operations : List (Operation Unit) := [.select aid 0,
      .transmit [0, 2, 0, 0, 5, 1, 2, 3, 4, 5], .transmit [0, 2, 0, 0, 3, 7, 8, 9]]
    let reached := operations.foldl next installed
    let command : Command := ⟨0, 3, 0, 0, [], some 2, false⟩
    let followers : List (Operation Unit) := [.transmit [0, 0xC0, 0, 0, 2]]
    (card.Reachable ∧ card.config.bufferSize < blockLimit ∧
      card.install aid [] Hello.install = (.ok ⟨1⟩, installed) ∧
      installed.Undisturbed aid (Hello.upcoming card.platform.store.heap ⟨1⟩).lastEcho.id
        operations ∧
      reached.Receives ⟨1⟩ [0, 3, 0, 0, 2] command ∧
      OnlyFetches command.channel (reached.transmit [0, 3, 0, 0, 2]).2 followers) ∧
    installed.remembered ⟨1⟩ [] operations = [7, 8, 9] ∧
    installed.remembered ⟨1⟩ [] (operations ++ [.select aid 0]) = [] ∧
    reached.portions [0, 3, 0, 0, 2] command followers =
      [⟨2, [7, 8, 0x61, 1]⟩, ⟨2, [9, 0x90, 0]⟩] ∧
    Portion.Conveys [⟨2, [7, 8, 0x61, 1]⟩, ⟨2, [9, 0x90, 0]⟩] [7, 8, 9] := by
  intro config card aid installed operations reached command followers
  have hvalid : config.validate = .ok () := by decide
  have hatr : config.readAtr = .ok [0x3B] := by decide
  have hpowered : Card.ofConfig config () = .ok card := by rw [Card.ofConfig, hvalid, hatr]
  have hbuffer : card.config.bufferSize < blockLimit := by decide
  have hcontext : (card.install aid [] Hello.install).1 = .ok ⟨1⟩ := by decide +kernel
  have hinstalled : card.install aid [] Hello.install = (.ok ⟨1⟩, installed) :=
    Prod.ext hcontext rfl
  have hundisturbed : installed.Undisturbed aid
      (Hello.upcoming card.platform.store.heap ⟨1⟩).lastEcho.id operations :=
    ⟨trivial, trivial, trivial, trivial⟩
  have hreceives : reached.Receives ⟨1⟩ [0, 3, 0, 0, 2] command :=
    ⟨by decide +kernel, by decide, by decide +kernel⟩
  have honly : OnlyFetches command.channel (reached.transmit [0, 3, 0, 0, 2]).2 followers :=
    ⟨.inl (by decide +kernel), trivial⟩
  have hremembered : installed.remembered ⟨1⟩ [] operations = [7, 8, 9] := by decide +kernel
  have hportions : reached.portions [0, 3, 0, 0, 2] command followers =
      [⟨2, [7, 8, 0x61, 1]⟩, ⟨2, [9, 0x90, 0]⟩] := by decide +kernel
  obtain ⟨-, hrepeats⟩ :=
    (echoes_conveyed (.ofConfig hpowered) hbuffer hinstalled).2 operations hundisturbed
  have hconveys := hrepeats hreceives rfl rfl honly
  rw [hremembered, hportions] at hconveys
  exact ⟨⟨.ofConfig hpowered, hbuffer, hinstalled, hundisturbed, hreceives, honly⟩, hremembered,
    by decide +kernel, hportions, hconveys⟩

/-- With a buffer that no memory holds the card breaks down where an echo should be answered,
although the configuration passes its check and the applet is selected. -/
theorem huge_buffer_echoes_nothing :
    let config : Config := { atr := "3B", bufferSize := 9223372036854775808 }
    let card : Card Unit := {
      config := config
      atr := [0x3B]
      platform := ⟨.empty config.quotas config.commitCapacity, .initial⟩
      registry := .empty config.maxApplets
      channels := .initial config.logicalChannels
      host := () }
    let aid : Aid := ⟨[0xA0, 0, 0, 0, 1], by decide, by decide⟩
    let installed := (card.install aid [] Hello.install).2
    let selected := installed.next (.select aid 0)
    let command : Command := ⟨0, 2, 0, 0, [7, 8, 9], none, false⟩
    Card.ofConfig config () = .ok card ∧
      card.install aid [] Hello.install = (.ok ⟨1⟩, installed) ∧
      installed.LeadsTo selected ∧
      selected.Receives ⟨1⟩ [0, 2, 0, 0, 3, 7, 8, 9] command ∧
      selected.attempt? [0, 2, 0, 0, 3, 7, 8, 9] = none ∧ ¬ selected.Echoes ⟨1⟩ := by
  intro config card aid installed selected command
  have hvalid : config.validate = .ok () := by decide
  have hatr : config.readAtr = .ok [0x3B] := by decide
  have hcontext : (card.install aid [] Hello.install).1 = .ok ⟨1⟩ := by decide +kernel
  have hnothing : selected.attempt? [0, 2, 0, 0, 3, 7, 8, 9] = none :=
    if_pos (by decide +kernel)
  refine ⟨by rw [Card.ofConfig, hvalid, hatr], Prod.ext hcontext rfl,
    @LeadsTo.next _ _ _ .refl (.select aid 0) trivial,
    ⟨by decide +kernel, by decide, by decide +kernel⟩, hnothing, fun hechoes ↦ ?_⟩
  have hanswer := hechoes.answers [0, 2, 0, 0, 3, 7, 8, 9]
  rw [hnothing] at hanswer
  cases hanswer

end Card

end SmartCard

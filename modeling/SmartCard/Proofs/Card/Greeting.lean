import SmartCard.Proofs.Applet.Greeting
import SmartCard.Proofs.Card.Echo

/-!
# Greetings are counted

What the hello applet counts is read off the run without a look at memory: the commands that it has
answered with the greeting (`Card.isGreeted`), and besides them those that it has counted although
it could not greet, since their data had not been received (`Card.isStray`). The number that it
keeps is that of both together (`Card.Reckons.run`), for an operation does one of two things. It may
ask for a greeting (`Card.greeting?`), and then `Card.Reckons.greet` says what comes of it, or all
its stages overlook the counter (`Card.overlooks_stages`), and then nothing does.

So the number that the applet tells is that of its greetings just as long as nobody asks for one
with data (`Card.greetings_counted`, `Card.tally_isStray_eq_zero`).
-/

set_option autoImplicit false
set_option relaxedAutoImplicit false

namespace SmartCard

/-- Whether a reply carries the first bytes of the greeting and says that all went well. -/
def Portion.isGreeting (portion : Portion) : Bool :=
  !portion.data.isEmpty && portion.data.isPrefixOf Hello.greeting && portion.isSuccess

/-- The reply to a sender that accepts something does, when the greeting is there to be sent. -/
theorem Portion.isGreeting_of_replyTo {portion : Portion} (haccepted : 0 < portion.accepted)
    (hreply : portion.reply = Card.replyTo portion.accepted Hello.greeting) :
    portion.isGreeting = true := by
  have hdata := data_eq hreply
  have hsome : portion.data.isEmpty = false := by
    rw [hdata, List.isEmpty_eq_false_iff, ne_eq, List.take_eq_nil_iff]
    exact fun hnone ↦ hnone.elim (Nat.ne_of_gt haccepted) (by decide)
  have hprefix : portion.data.isPrefixOf Hello.greeting = true := by
    rw [hdata, List.isPrefixOf_iff_prefix]
    exact List.take_prefix _ _
  rw [isGreeting, hsome, hprefix, isSuccess_of_replyTo hreply]
  rfl

namespace Card

variable {σ : Type}

/-! ### Greetings in a run -/

/-- The command that asks the applet in a context for a greeting, if an operation sends one. -/
def greeting? (card : Card σ) (context : ContextId) : Operation σ → Option Command
  | .transmit raw =>
    match Command.parse raw card.config.extendedLength with
    | .error _ => none
    | .ok command =>
      if (card.route command).1 = .ok (.handled context false) ∧
          command.instruction = Hello.greetInstruction then
        some command
      else none
  | _ => none

/-- Whether an operation asks for a greeting and is answered with it. -/
def isGreeted (context : ContextId) (card : Card σ) : Operation σ → Bool
  | .transmit raw => (card.greeting? context (.transmit raw)).any fun command ↦
    Portion.isGreeting ⟨command.accepted, (card.transmit raw).1⟩
  | _ => false

/-- Whether an operation asks for a greeting with data and no tear keeps it from being counted. -/
def isStray (context : ContextId) (card : Card σ) (operation : Operation σ) : Bool :=
  (card.greeting? context operation).any fun command ↦
    !command.data.isEmpty && (card.next operation).tearsFired == card.tearsFired

/-- How many operations of a run are of some sort. -/
def tally (isCounted : Card σ → Operation σ → Bool) (card : Card σ) : List (Operation σ) → Nat
  | [] => 0
  | operation :: rest =>
    (isCounted card operation).toNat + (card.next operation).tally isCounted rest

variable {card : Card σ} {config : Config} {entry : Registration σ} {arrays : Hello}
  {raw : List UInt8} {command : Command} {context : ContextId} {operation : Operation σ}
  {count updated : Nat} {followers : List (Operation σ)}

/-- Bytes that ask for a greeting are a command that does. -/
theorem greeting?_eq_some (hgreeting : card.greeting? context operation = some command) :
    ∃ raw, operation = .transmit raw ∧
      Command.parse raw card.config.extendedLength = .ok command ∧
      (card.route command).1 = .ok (.handled context false) ∧
      command.instruction = Hello.greetInstruction := by
  cases operation with
  | transmit raw =>
    cases hparse : Command.parse raw card.config.extendedLength with
    | error word =>
      rw [greeting?, hparse] at hgreeting
      cases hgreeting
    | ok found =>
      rw [greeting?, hparse] at hgreeting
      dsimp only at hgreeting
      split at hgreeting
      case isTrue hmeant =>
        obtain rfl := Option.some.inj hgreeting
        exact ⟨raw, rfl, hparse, hmeant⟩
      case isFalse => cases hgreeting
  | _ => cases hgreeting

/-- Without greetings asked for with data there are no strays. -/
theorem tally_isStray_eq_zero {operations : List (Operation σ)}
    (hplain : ∀ before operation after, operations = before ++ operation :: after →
      ∀ command, (before.foldl Card.next card).greeting? context operation = some command →
        command.data = []) :
    card.tally (isStray context) operations = 0 := by
  induction operations generalizing card with
  | nil => rfl
  | cons operation rest ih =>
    have hfirst : isStray context card operation = false := by
      rw [isStray]
      cases hgreeting : card.greeting? context operation with
      | none => rfl
      | some command =>
        have hdata := hplain [] operation rest rfl command hgreeting
        rw [Option.any_some, hdata]
        rfl
    have hrest := ih fun before other after hsplit ↦
      hplain (operation :: before) other after (congrArg (operation :: ·) hsplit)
    rw [tally, hfirst, hrest]
    rfl

/-! ### The applet and its counter -/

/-- Whether an applet is a hello applet that has its counter to itself, with some count. -/
structure Reckons (card : Card σ) (entry : Registration σ) (arrays : Hello) (count : Nat) :
    Prop where
  reachable : card.Reachable
  applet_eq : entry.applet = arrays.applet
  distinct : arrays.lastEcho.id ≠ arrays.greetings.id
  holds : card.Holds entry arrays.greetings.id (Hello.counterRegion entry.context count)

/-- What becomes of a card by a command that asks for a greeting: the count goes on with the
greeting, unless a tear comes with it; and it goes on as well if there are data, although these keep
the greeting from being sent. -/
inductive Greeted (card : Card σ) (raw : List UInt8) (command : Command) (count : Nat) :
    Nat → Prop where
  | sent (hdata : command.data = [])
    (hreply : (card.transmit raw).1 = replyTo command.accepted Hello.greeting)
    (htears : (card.transmit raw).2.tearsFired = card.tearsFired) :
    Greeted card raw command count (count + 1)
  | torn (hreply : (card.transmit raw).1 = StatusWord.unknown.toBytes)
    (htears : (card.transmit raw).2.tearsFired = card.tearsFired + 1) :
    Greeted card raw command count count
  | stray (hdata : command.data ≠ [])
    (hreply : (card.transmit raw).1 = StatusWord.unknown.toBytes)
    (htears : (card.transmit raw).2.tearsFired = card.tearsFired) :
    Greeted card raw command count (count + 1)

/-- The count goes on just if the operation is greeted or a stray. -/
theorem Greeted.count_eq (hgreeted : card.Greeted raw command count updated)
    (hgreeting : card.greeting? context (.transmit raw) = some command) :
    updated = count + ((isGreeted context card (.transmit raw)).toNat +
      (isStray context card (.transmit raw)).toNat) := by
  obtain ⟨_, hsame, hparse, -⟩ := greeting?_eq_some hgreeting
  cases hsame
  rw [isGreeted, isStray, hgreeting, Option.any_some, Option.any_some, next]
  cases hgreeted with
  | sent hdata hreply =>
    rw [Portion.isGreeting_of_replyTo (Command.accepted_pos hparse) hreply, hdata]
    rfl
  | torn hreply htears =>
    -- a failure reads as no greeting, and the injector tells it from a stray
    have hmore : ((card.transmit raw).2.tearsFired == card.tearsFired) = false := by
      rw [htears]
      exact beq_eq_false_iff_ne.mpr (Nat.succ_ne_self _)
    rw [hreply, hmore, Bool.and_false]
    rfl
  | stray hdata hreply htears =>
    have hsome : command.data.isEmpty = false := List.isEmpty_eq_false_iff.mpr hdata
    rw [hreply, hsome, htears, beq_self_eq_true]
    rfl

namespace Reckons

variable (hreckons : card.Reckons entry arrays count)

include hreckons

theorem process_eq : entry.applet.process = arrays.process := by
  rw [hreckons.applet_eq]
  rfl

/-- The applet reckons with what its code leaves in the counter. -/
theorem answered {result : Except CardError Unit} {counted : Store} {left : Exchange}
    (hanswers : card.Answers raw command result
      ((card.sessionFor entry.context command).withStore counted) left)
    (hidle : counted.transaction.isActive = false)
    (hfind : counted.heap.find? arrays.greetings.id =
      some (Hello.counterRegion entry.context updated)) :
    (card.transmit raw).2.Reckons entry arrays updated ∧
      (card.transmit raw).2.tearsFired = counted.transaction.tear.fired := by
  have hreach : (card.transmit raw).2.Reachable :=
    @Reachable.next σ card hreckons.reachable (.transmit raw) trivial
  have hsettled := hanswers.platform_of_idle hidle
  refine ⟨⟨hreach, hreckons.applet_eq, hreckons.distinct, ?_⟩,
    congrArg (·.store.transaction.tear.fired) hsettled⟩
  exact {
    registered := hanswers.registry_eq ▸ hreckons.holds.registered
    owner_eq := rfl
    lifetime_eq := rfl
    grants_eq := rfl
    keeps := ⟨hreach.rests.keeps (hsettled ▸ hfind), hsettled ▸ hreckons.holds.keeps.unoffered⟩ }

/-- What becomes of a command that asks for a greeting. -/
theorem greet (hgreeting : card.greeting? entry.context (.transmit raw) = some command) :
    ∃ updated, card.Greeted raw command count updated ∧
      (card.transmit raw).2.Reckons entry arrays updated := by
  obtain ⟨config, hcoheres⟩ := hreckons.reachable.exists_coheres
  obtain ⟨_, hsame, hparse, hroute, hinstruction⟩ := greeting?_eq_some hgreeting
  cases hsame
  set session := card.sessionFor entry.context command
  set started := Exchange.start command card.config.bufferSize false
  have hfind : session.platform.store.heap.find? arrays.greetings.id =
      some (Hello.counterRegion session.context count) := hreckons.holds.keeps.store.found
  have hidle : session.platform.store.transaction.isActive = false :=
    Store.depth_eq_zero_iff.mp hreckons.reachable.rests.depth_eq
  have hanswers : ∀ {result after left},
      session.handle started arrays.greet = (.value result, after, left) →
        card.Answers raw command result after left := by
    intro result after left hhandle
    refine transmit_of_selected hparse hroute
      (hcoheres.inContext?_eq_some hreckons.holds.registered) ?_
    rw [hreckons.process_eq]
    exact (Hello.handle_process_of_greet session hinstruction _).trans hhandle
  by_cases hdue : session.platform.store.transaction.tear.remaining = some 0
  · have htorn := hanswers (Hello.handle_greet_of_torn hfind hdue started)
    obtain ⟨hafter, htears⟩ := hreckons.answered htorn hidle hfind
    exact ⟨count, .torn htorn.reply_eq htears, hafter⟩
  -- from here on the greeting is counted for good, whether it can be sent or not
  obtain ⟨counted, hcounted, hstill, hfired, hgreet⟩ :=
    Hello.exists_handle_greet hfind hreckons.reachable.rests.wellFormed hidle hdue
  by_cases hdata : command.data = []
  · obtain ⟨left, hrespond, hfinish⟩ := (session.withStore counted).handle_respond
      (Exchange.awaits_start hdata card.config.bufferSize false)
      (by decide : Hello.greeting.length ≤ Exchange.maxShortOutgoing)
    have hsent := hanswers ((hgreet started).trans hrespond)
    obtain ⟨hafter, htears⟩ := hreckons.answered hsent hstill hcounted
    exact ⟨count + 1, .sent hdata (hsent.reply_eq.trans (replyOf_of_finish hfinish _))
      (htears.trans hfired), hafter⟩
  · obtain ⟨error, left, hword, hrespond⟩ := (session.withStore counted).handle_respond_of_pending
      hdata card.config.bufferSize Hello.greeting
    have hstray := hanswers ((hgreet started).trans hrespond)
    obtain ⟨hafter, htears⟩ := hreckons.answered hstray hstill hcounted
    exact ⟨count + 1, .stray hdata (hstray.reply_eq.trans (congrArg StatusWord.toBytes hword))
      (htears.trans hfired), hafter⟩

/-- An operation that asks for no greeting leaves the count. -/
theorem pass (hpermits : card.Permits entry.aid arrays.greetings.id operation)
    (hnone : card.greeting? entry.context operation = none) :
    (card.next operation).Reckons entry arrays count := by
  obtain ⟨config, hcoheres⟩ := hreckons.reachable.exists_coheres
  have hoverlooks := @overlooks_stages σ card config entry operation arrays.greetings.id
    (fun command selecting ↦ selecting = true ∨ command.instruction ≠ Hello.greetInstruction)
    hreckons.holds.registered hcoheres hpermits fun {raw command selecting} hoperation hparse
      hroute ↦ by
    cases selecting with
    | true => exact .inl rfl
    | false =>
      refine .inr fun hinstruction ↦ ?_
      rw [hoperation, greeting?, hparse] at hnone
      dsimp only at hnone
      rw [if_pos ⟨hroute, hinstruction⟩] at hnone
      cases hnone
  have hlater := hreckons.holds.foldl_perform hcoheres (card.isReady_stages operation)
    fun scene hscene ↦ (hoverlooks scene hscene).spares hreckons.applet_eq
      fun hother _ bufferSize hkeeps ↦
        Hello.keeps_counter hreckons.distinct hkeeps hother bufferSize
  rw [foldl_stages] at hlater
  exact ⟨.next hreckons.reachable hpermits.returns, hreckons.applet_eq, hreckons.distinct, hlater⟩

/-- So an operation counts if it is greeted or a stray. -/
theorem next (hpermits : card.Permits entry.aid arrays.greetings.id operation) :
    (card.next operation).Reckons entry arrays
      (count + ((isGreeted entry.context card operation).toNat +
        (isStray entry.context card operation).toNat)) := by
  cases hgreeting : card.greeting? entry.context operation with
  | none =>
    have hgreeted : isGreeted entry.context card operation = false := by
      cases operation with
      | transmit raw => rw [isGreeted, hgreeting]; rfl
      | _ => rfl
    rw [hgreeted, isStray, hgreeting]
    exact hreckons.pass hpermits hgreeting
  | some command =>
    obtain ⟨raw, rfl, -⟩ := greeting?_eq_some hgreeting
    obtain ⟨updated, hgreeted, hafter⟩ := hreckons.greet hgreeting
    rw [← hgreeted.count_eq hgreeting]
    exact hafter

/-- And a run counts its operations that are. -/
theorem run {operations : List (Operation σ)}
    (hundisturbed : card.Undisturbed entry.aid arrays.greetings.id operations) :
    (operations.foldl Card.next card).Reckons entry arrays
      (count + (card.tally (isGreeted entry.context) operations +
        card.tally (isStray entry.context) operations)) := by
  induction operations generalizing card count with
  | nil => exact hreckons
  | cons operation rest ih =>
    obtain ⟨hpermits, hrest⟩ := hundisturbed
    have hlast := ih (hreckons.next hpermits) hrest
    have hsum : ∀ first second third fourth : Nat,
        count + (first + second) + (third + fourth) =
          count + (first + third + (second + fourth)) := by omega
    rw [hsum] at hlast
    exact hlast

/-- A command without data that asks for the number of greetings is answered with the count. -/
theorem conveys_count (hreceives : card.Receives entry.context raw command)
    (hinstruction : command.instruction = Hello.countInstruction) (hdata : command.data = [])
    (honly : OnlyFetches command.channel (card.transmit raw).2 followers) :
    Portion.Conveys (card.portions raw command followers)
      [UInt8.ofNat (count / 256), UInt8.ofNat count] := by
  obtain ⟨config, hcoheres⟩ := hreckons.reachable.exists_coheres
  have hfind : (card.sessionFor entry.context command).platform.store.heap.find?
      arrays.greetings.id = some (Hello.counterRegion entry.context count) :=
    hreckons.holds.keeps.store.found
  obtain ⟨left, hhandle, hfinish⟩ := Hello.handle_count hfind hdata card.config.bufferSize
  rw [← Hello.handle_process_of_count _ hinstruction, ← hreckons.process_eq] at hhandle
  exact conveys_portions hreceives.parse_eq
    (hreceives.route hcoheres (by rw [hinstruction]; decide))
    (hcoheres.inContext?_eq_some hreckons.holds.registered) hhandle hfinish honly

theorem counts : arrays.Counts card.platform.store.heap entry.context count :=
  Hello.counts_region hreckons.holds.keeps.store.found

end Reckons

/-! ### The hello applet that is installed -/

/-- A hello applet that has been installed has counted nothing. -/
theorem Reachable.reckons_installed {installed : Card σ} {aid : Aid} {data : List UInt8}
    (hreach : card.Reachable)
    (hinstalled : card.install aid data Hello.install = (.ok context, installed)) :
    ∃ entry : Registration σ, entry.aid = aid ∧ entry.context = context ∧
      installed.Reckons entry (Hello.upcoming card.platform.store.heap context) 0 := by
  obtain ⟨params, applet, first, after, -, hstore, hidle, rfl, hplay, hfurnished⟩ :=
    hreach.exists_furnished hinstalled
  rw [← hstore]
  have hopens := Hello.play_install hidle hplay
  obtain ⟨entry, hregistered, haid, hcontext, rfl, hkeeps⟩ :=
    hfurnished ⟨Nat.le_succ _, hopens.idle, hopens.counted, hopens.exports_eq,
      hopens.registered_eq⟩
  rw [← hcontext, ← Hello.counterRegion_zero] at hkeeps
  exact ⟨entry, haid, hcontext, hreach.installed hinstalled, hopens.applet_eq,
    (Nat.succ_ne_self _).symm, hregistered, rfl, rfl, rfl, hkeeps⟩

/-! ### The number of greetings -/

/-- Whether the applet in a context keeps some count of greetings: it can read the count, tells it
wherever it is selected, and goes on from it when it is asked for a greeting. -/
structure KeepsCount (card : Card σ) (arrays : Hello) (context : ContextId) (count : Nat) :
    Prop where
  counts : arrays.Counts card.platform.store.heap context count
  tells : ∀ {raw command followers}, card.Receives context raw command →
    command.instruction = Hello.countInstruction → command.data = [] →
      OnlyFetches command.channel (card.transmit raw).2 followers →
        Portion.Conveys (card.portions raw command followers)
          [UInt8.ofNat (count / 256), UInt8.ofNat count]
  greets : ∀ {raw command}, card.greeting? context (.transmit raw) = some command →
    ∃ updated, card.Greeted raw command count updated ∧
      arrays.Counts (card.transmit raw).2.platform.store.heap context updated

/-- A hello applet keeps count of its greetings. Whatever is done to a card on which it has been
installed, as long as it is not removed and its counter not written to or given away by code that
looks at memory, the count is modulo `2 ^ 16` the number of commands that it has answered with the
greeting and of those that asked for one with data and came without a tear. -/
theorem greetings_counted {installed : Card σ} {aid : Aid} {data : List UInt8}
    (hreach : card.Reachable)
    (hinstalled : card.install aid data Hello.install = (.ok context, installed)) :
    let arrays := Hello.upcoming card.platform.store.heap context
    (∃ entry ∈ installed.registry.entries,
      entry.aid = aid ∧ entry.context = context ∧ entry.applet = arrays.applet) ∧
    ∀ operations : List (Operation σ), installed.Undisturbed aid arrays.greetings.id operations →
      (operations.foldl next installed).KeepsCount arrays context
        (installed.tally (isGreeted context) operations +
          installed.tally (isStray context) operations) := by
  intro arrays
  obtain ⟨entry, rfl, rfl, hreckons⟩ := hreach.reckons_installed hinstalled
  refine ⟨⟨entry, hreckons.holds.registered, rfl, rfl, hreckons.applet_eq⟩,
    fun operations hundisturbed ↦ ?_⟩
  have hlast := hreckons.run hundisturbed
  rw [Nat.zero_add] at hlast
  constructor
  case counts => exact hlast.counts
  case tells => exact hlast.conveys_count
  case greets =>
    intro raw command hgreeting
    obtain ⟨updated, hgreeted, hafter⟩ := hlast.greet hgreeting
    exact ⟨updated, hgreeted, hafter.counts⟩

/-- Four commands ask for a greeting: one is answered with all of it, one is torn, one is answered
with five bytes after a reset, and one has data. Another hello applet greets in between. -/
theorem greetings_counted_torn :
    let config : Config := { atr := "3B" }
    let card : Card Unit := {
      config := config
      atr := [0x3B]
      platform := ⟨.empty config.quotas config.commitCapacity, .initial⟩
      registry := .empty config.maxApplets
      channels := .initial config.logicalChannels
      host := () }
    let aid : Aid := ⟨[0xA0, 0, 0, 0, 1], by decide, by decide⟩
    let other : Aid := ⟨[0xA0, 0, 0, 0, 2], by decide, by decide⟩
    let installed := (card.install aid [] Hello.install).2
    let arrays := Hello.upcoming card.platform.store.heap ⟨1⟩
    let operations : List (Operation Unit) := [.select aid 0, .transmit [0, 1, 0, 0], .armTear 0,
      .transmit [0, 1, 0, 0], .install other [] Hello.install, .select other 0,
      .transmit [0, 1, 0, 0], .reset, .select aid 0, .transmit [0, 1, 0, 0, 5],
      .transmit [0, 1, 0, 0, 1, 0xAA]]
    let reached := operations.foldl next installed
    let command : Command := ⟨0, 4, 0, 0, [], none, false⟩
    (card.Reachable ∧ card.install aid [] Hello.install = (.ok ⟨1⟩, installed) ∧
      installed.Undisturbed aid arrays.greetings.id operations ∧
      reached.Receives ⟨1⟩ [0, 4, 0, 0] command) ∧
    installed.tally (isGreeted ⟨1⟩) operations = 2 ∧
    installed.tally (isStray ⟨1⟩) operations = 1 ∧
    reached.portions [0, 4, 0, 0] command [] = [⟨256, [0, 3, 0x90, 0]⟩] ∧
    Portion.Conveys [⟨256, [0, 3, 0x90, 0]⟩] [0, 3] ∧ reached.KeepsCount arrays ⟨1⟩ 3 := by
  intro config card aid other installed arrays operations reached command
  have hvalid : config.validate = .ok () := by decide
  have hatr : config.readAtr = .ok [0x3B] := by decide
  have hpowered : Card.ofConfig config () = .ok card := by rw [Card.ofConfig, hvalid, hatr]
  have hcontext : (card.install aid [] Hello.install).1 = .ok ⟨1⟩ := by decide +kernel
  have hinstalled : card.install aid [] Hello.install = (.ok ⟨1⟩, installed) :=
    Prod.ext hcontext rfl
  have hundisturbed : installed.Undisturbed aid arrays.greetings.id operations :=
    ⟨trivial, trivial, trivial, trivial, trivial, trivial, trivial, trivial, trivial, trivial,
      trivial, trivial⟩
  have hreceives : reached.Receives ⟨1⟩ [0, 4, 0, 0] command :=
    ⟨by decide +kernel, by decide, by decide +kernel⟩
  have hgreeted : installed.tally (isGreeted ⟨1⟩) operations = 2 := by decide +kernel
  have hstray : installed.tally (isStray ⟨1⟩) operations = 1 := by decide +kernel
  have hportions : reached.portions [0, 4, 0, 0] command [] = [⟨256, [0, 3, 0x90, 0]⟩] := by
    decide +kernel
  have hkeeps := (greetings_counted (.ofConfig hpowered) hinstalled).2 operations hundisturbed
  rw [hgreeted, hstray] at hkeeps
  have honly : OnlyFetches command.channel (reached.transmit [0, 4, 0, 0]).2 [] := trivial
  have hconveys := hkeeps.tells hreceives rfl rfl honly
  rw [hportions] at hconveys
  exact ⟨⟨.ofConfig hpowered, hinstalled, hundisturbed, hreceives⟩, hgreeted, hstray, hportions,
    hconveys, hkeeps⟩

/-- A command that asks for a greeting with data is answered with a failure, and counted. -/
theorem failed_greeting_counted :
    let config : Config := { atr := "3B" }
    let card : Card Unit := {
      config := config
      atr := [0x3B]
      platform := ⟨.empty config.quotas config.commitCapacity, .initial⟩
      registry := .empty config.maxApplets
      channels := .initial config.logicalChannels
      host := () }
    let aid : Aid := ⟨[0xA0, 0, 0, 0, 1], by decide, by decide⟩
    let installed := (card.install aid [] Hello.install).2
    let selected := installed.next (.select aid 0)
    let operation : Operation Unit := .transmit [0, 1, 0, 0, 1, 0xAA]
    Card.ofConfig config () = .ok card ∧
      card.install aid [] Hello.install = (.ok ⟨1⟩, installed) ∧
      (selected.transmit [0, 4, 0, 0]).1 = [0, 0, 0x90, 0] ∧
      (selected.transmit [0, 1, 0, 0, 1, 0xAA]).1 = StatusWord.unknown.toBytes ∧
      installed.tally (isGreeted ⟨1⟩) [.select aid 0, operation] = 0 ∧
      ((selected.next operation).transmit [0, 4, 0, 0]).1 = [0, 1, 0x90, 0] := by
  intro config card aid installed selected operation
  have hvalid : config.validate = .ok () := by decide
  have hatr : config.readAtr = .ok [0x3B] := by decide
  have hcontext : (card.install aid [] Hello.install).1 = .ok ⟨1⟩ := by decide +kernel
  exact ⟨by rw [Card.ofConfig, hvalid, hatr], Prod.ext hcontext rfl, by decide +kernel,
    by decide +kernel, by decide +kernel, by decide +kernel⟩

end Card

end SmartCard

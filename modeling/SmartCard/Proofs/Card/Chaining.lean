import SmartCard.Proofs.Card.Waiting
import SmartCard.Proofs.Command.Layout

/-!
# Responses in several replies

An output that does not fit into the reply to a command is fetched piece by piece. Whatever the
sender accepts each time, and whatever else happens to the card in between, the replies lose nothing
of the output and repeat nothing (`Card.response_delivered`): they may be interleaved with every
operation but a reset, other commands on the channel and the closing of the channel
(`Card.OnlyFetches`).

The statement is about replies as they are sent (`Portion`): each consists of data and two bytes of
status word, and each goes on where the data sent before it ended (`Portion.Continues`). The proof
is by induction on the operations, with the bytes left as the invariant (`Portion.Delivers`).
-/

set_option autoImplicit false
set_option relaxedAutoImplicit false

namespace SmartCard

/-- The bytes of a word are those that it was made of. -/
theorem StatusWord.toBytes_ofBytes (high low : UInt8) :
    (StatusWord.ofBytes high low).toBytes = [high, low] := by
  have hhigh := high.toNat_lt
  have hlow := low.toNat_lt
  have hvalue : (high.toUInt16 * 256 + low.toUInt16).toNat = high.toNat * 256 + low.toNat := by
    simp only [UInt16.toNat_add, UInt16.toNat_mul, UInt8.toNat_toUInt16, UInt16.reduceToNat]
    omega
  have hfirst : (StatusWord.ofBytes high low).high = high := by
    apply UInt8.toNat_inj.mp
    simp only [StatusWord.high, StatusWord.ofBytes, UInt16.toNat_toUInt8, UInt16.toNat_div, hvalue,
      UInt16.reduceToNat]
    omega
  have hsecond : (StatusWord.ofBytes high low).low = low := by
    apply UInt8.toNat_inj.mp
    simp only [StatusWord.low, StatusWord.ofBytes, UInt16.toNat_toUInt8, hvalue]
    omega
  rw [toBytes, hfirst, hsecond]

/-- The reply to a command, and how many bytes the sender of the command accepts. -/
structure Portion where
  accepted : Nat
  reply : List UInt8
  deriving DecidableEq, Repr

namespace Portion

/-- The data that a reply carries. -/
def data (portion : Portion) : List UInt8 :=
  portion.reply.take (portion.reply.length - 2)

/-- The two bytes of status word in which a reply ends. -/
def status (portion : Portion) : List UInt8 :=
  portion.reply.drop (portion.reply.length - 2)

/-- Whether a reply says that nothing is left. -/
def isLast (portion : Portion) : Bool :=
  portion.status == [0x90, 0x00]

/-- Whether a reply goes on with an output of which some bytes have been sent: as many further bytes
as the sender accepts and are left, and then how many are still left. -/
structure Continues (portion : Portion) (output sent : List UInt8) : Prop where
  append_prefix : sent ++ portion.data <+: output
  length_data : portion.data.length = min portion.accepted (output.length - sent.length)
  status_eq : portion.status =
    let left := output.length - (sent ++ portion.data).length
    if left = 0 then [0x90, 0x00] else [0x61, if left < 256 then UInt8.ofNat left else 0x00]
  complete : portion.isLast = true → sent ++ portion.data = output

/-- Whether replies send bytes one after another, until none is left. -/
def Delivers : List UInt8 → List Portion → Prop
  | _, [] => True
  | waiting, portion :: rest =>
    0 < portion.accepted ∧ portion.reply = Card.replyTo portion.accepted waiting ∧
      (portion.accepted < waiting.length → Delivers (waiting.drop portion.accepted) rest)

/-! ### One reply -/

section Reply

variable {portion : Portion} {waiting : List UInt8}

/-- The two bytes that tell how many bytes are left. -/
theorem toBytes_bytesRemaining (left : Nat) :
    (StatusWord.bytesRemaining left).toBytes =
      [0x61, if left < 256 then UInt8.ofNat left else 0x00] := by
  rw [StatusWord.bytesRemaining, StatusWord.toBytes_ofBytes]
  by_cases hmany : 256 ≤ left
  · rw [if_pos hmany, if_neg (Nat.not_lt.mpr hmany)]
  · rw [if_neg hmany, if_pos (Nat.not_le.mp hmany)]

/-- A reply carries as much as is accepted and there. -/
theorem data_eq (hreply : portion.reply = Card.replyTo portion.accepted waiting) :
    portion.data = waiting.take portion.accepted := by
  unfold data
  rw [hreply, Card.replyTo]
  by_cases hshort : portion.accepted < waiting.length
  · rw [if_pos hshort, List.length_append]
    exact List.take_left
  · rw [if_neg hshort, List.length_append, List.take_of_length_le (Nat.not_lt.mp hshort)]
    exact List.take_left

theorem status_eq (hreply : portion.reply = Card.replyTo portion.accepted waiting) :
    portion.status =
      if portion.accepted < waiting.length then
        (StatusWord.bytesRemaining (waiting.length - portion.accepted)).toBytes
      else [0x90, 0x00] := by
  unfold status
  rw [hreply, Card.replyTo]
  by_cases hshort : portion.accepted < waiting.length
  · rw [if_pos hshort, if_pos hshort, List.length_append, List.length_drop]
    exact List.drop_left
  · rw [if_neg hshort, if_neg hshort, List.length_append]
    exact List.drop_left

/-- A reply says that nothing is left just when everything there is accepted. -/
theorem isLast_eq_false_iff (hreply : portion.reply = Card.replyTo portion.accepted waiting) :
    portion.isLast = false ↔ portion.accepted < waiting.length := by
  rw [isLast, status_eq hreply, beq_eq_false_iff_ne]
  by_cases hshort : portion.accepted < waiting.length
  · rw [if_pos hshort, toBytes_bytesRemaining]
    exact iff_of_true (fun hsame ↦ nomatch hsame) hshort
  · rw [if_neg hshort]
    exact iff_of_false (fun hother ↦ hother rfl) hshort

/-- A reply begins an output of which nothing has been sent. -/
theorem continues_nil (hreply : portion.reply = Card.replyTo portion.accepted waiting) :
    portion.Continues waiting [] where
  append_prefix := by
    rw [List.nil_append, data_eq hreply]
    exact List.take_prefix portion.accepted waiting
  length_data := by
    rw [data_eq hreply, List.length_take]
    rfl
  status_eq := by
    rw [status_eq hreply, List.nil_append, data_eq hreply, List.length_take,
      toBytes_bytesRemaining]
    by_cases hshort : portion.accepted < waiting.length
    · have hleft : waiting.length - min portion.accepted waiting.length ≠ 0 := by omega
      dsimp only
      rw [if_pos hshort, if_neg hleft, Nat.min_eq_left (Nat.le_of_lt hshort)]
    · have hleft : waiting.length - min portion.accepted waiting.length = 0 := by omega
      dsimp only
      rw [if_neg hshort, if_pos hleft]
  complete := by
    intro hlast
    rw [List.nil_append, data_eq hreply]
    refine List.take_of_length_le (Nat.not_lt.mp fun hshort ↦ ?_)
    rw [(isLast_eq_false_iff hreply).mpr hshort] at hlast
    exact nomatch hlast

/-- What has been sent before may be counted in. -/
theorem Continues.append {output sent : List UInt8} (hcontinues : portion.Continues output sent)
    (before : List UInt8) : portion.Continues (before ++ output) (before ++ sent) where
  append_prefix := by
    rw [List.append_assoc]
    exact (List.prefix_append_right_inj before).mpr hcontinues.append_prefix
  length_data := by
    rw [hcontinues.length_data, List.length_append, List.length_append, Nat.add_sub_add_left]
  status_eq := by
    have hleft : (before ++ output).length - (before ++ sent ++ portion.data).length =
        output.length - (sent ++ portion.data).length := by
      rw [List.append_assoc, List.length_append, List.length_append, Nat.add_sub_add_left]
    rw [hcontinues.status_eq, hleft]
  complete := by
    intro hlast
    rw [List.append_assoc, hcontinues.complete hlast]

end Reply

/-! ### Many replies -/

/-- As long as no reply has been the last, the next one goes on where the data before it ended. -/
theorem Delivers.continues {output : List UInt8} {before later : List Portion} {portion : Portion}
    (hdelivers : Delivers output (before ++ portion :: later))
    (hunfinished : ∀ earlier ∈ before, earlier.isLast = false) :
    portion.Continues output (before.flatMap data) := by
  induction before generalizing output with
  | nil => exact continues_nil hdelivers.2.1
  | cons head before ih =>
    obtain ⟨-, hreply, hrest⟩ := hdelivers
    rw [List.forall_mem_cons] at hunfinished
    have hshort := (isLast_eq_false_iff hreply).mp hunfinished.1
    have hcontinues := (ih (hrest hshort) hunfinished.2).append (output.take head.accepted)
    rw [List.take_append_drop, ← data_eq hreply] at hcontinues
    exact hcontinues

/-- Every reply before the last takes a byte at least, so there are not more of them than bytes. -/
theorem Delivers.exists_isLast {output : List UInt8} {portions : List Portion}
    (hdelivers : Delivers output portions) (hsome : portions ≠ [])
    (hmany : output.length ≤ portions.length) : ∃ portion ∈ portions, portion.isLast = true := by
  induction portions generalizing output with
  | nil => exact absurd rfl hsome
  | cons head rest ih =>
    obtain ⟨haccepted, hreply, hrest⟩ := hdelivers
    cases hlast : head.isLast with
    | true => exact ⟨head, List.mem_cons_self, hlast⟩
    | false =>
      have hshort := (isLast_eq_false_iff hreply).mp hlast
      have hfewer : (output.drop head.accepted).length ≤ rest.length := by
        rw [List.length_drop]
        rw [List.length_cons] at hmany
        omega
      have hothers : rest ≠ [] := by
        rintro rfl
        rw [List.length_drop, List.length_nil] at hfewer
        omega
      obtain ⟨portion, hmem, hfinal⟩ := ih (hrest hshort) hothers hfewer
      exact ⟨portion, List.mem_cons_of_mem head hmem, hfinal⟩

end Portion

namespace Card

variable {σ : Type} {card : Card σ}

/-! ### Fetching from a card -/

/-- The reply to a command that fetches bytes from a channel, if an operation is one. -/
def fetch? (card : Card σ) (channel : Nat) : Operation σ → Option Portion
  | .transmit raw =>
    ((Command.parse raw card.config.extendedLength).toOption.filter fun command ↦
      isInstruction command Command.getResponseInstruction && command.channel == channel).map
        fun command ↦ ⟨command.accepted, (card.transmit raw).1⟩
  | _ => none

/-- Whether an operation is no reset and no other command on a channel, and does not close it. -/
def Bypasses (card : Card σ) (channel : Nat) (operation : Operation σ) : Prop :=
  operation ≠ .reset ∧ card.isCommandOn channel operation = false ∧
    (card.next operation).channels.isOpen channel = true

/-- Whether operations fetch from a channel or bypass it. -/
def OnlyFetches (channel : Nat) : Card σ → List (Operation σ) → Prop
  | _, [] => True
  | card, operation :: rest =>
    ((card.fetch? channel operation).isSome = true ∨ card.Bypasses channel operation) ∧
      OnlyFetches channel (card.next operation) rest

/-- The replies to the commands that fetch from a channel, in order. -/
def fetched (channel : Nat) : Card σ → List (Operation σ) → List Portion
  | _, [] => []
  | card, operation :: rest =>
    (card.fetch? channel operation).toList ++ fetched channel (card.next operation) rest

/-- A command that fetches. -/
theorem fetch?_eq_some {channel : Nat} {operation : Operation σ} {portion : Portion}
    (hfetch : card.fetch? channel operation = some portion) :
    ∃ raw command, operation = .transmit raw ∧
      Command.parse raw card.config.extendedLength = .ok command ∧
      isInstruction command Command.getResponseInstruction = true ∧ command.channel = channel ∧
      portion = ⟨command.accepted, (card.transmit raw).1⟩ := by
  cases operation with
  | transmit raw =>
    rw [fetch?, Option.map_eq_some_iff] at hfetch
    obtain ⟨command, hcommand, rfl⟩ := hfetch
    rw [Option.filter_eq_some_iff, Bool.and_eq_true, beq_iff_eq] at hcommand
    refine ⟨raw, command, rfl, ?_, hcommand.2.1, hcommand.2.2, rfl⟩
    cases hparse : Command.parse raw card.config.extendedLength with
    | error word =>
      rw [hparse] at hcommand
      exact nomatch hcommand.1
    | ok parsed =>
      rw [hparse] at hcommand
      exact congrArg Except.ok (Option.some.inj hcommand.1)
  | select | deselect | openChannel | closeChannel | install | uninstall | inspect | reset | armTear
  | disarmTear | setHost => exact nomatch hfetch

/-- The replies deliver what waits on an open channel. -/
theorem delivers_fetched {channel : Nat} {operations : List (Operation σ)}
    (hopen : card.channels.isOpen channel = true) (hwaiting : card.channels.pending channel ≠ [])
    (honly : OnlyFetches channel card operations) :
    Portion.Delivers (card.channels.pending channel) (fetched channel card operations) := by
  induction operations generalizing card with
  | nil => trivial
  | cons operation rest ih =>
    obtain ⟨hoperation, honly⟩ := honly
    unfold fetched
    cases hfetch : card.fetch? channel operation with
    | none =>
      rw [hfetch] at hoperation
      obtain ⟨hreset, hcommand, hstill⟩ := hoperation.resolve_left Bool.false_ne_true
      have hpending := pending_next hreset hcommand hstill
      rw [← hpending] at hwaiting ⊢
      exact ih hstill hwaiting honly
    | some portion =>
      obtain ⟨raw, command, rfl, hparse, hinstruction, rfl, rfl⟩ := fetch?_eq_some hfetch
      have htransmit := transmit_of_fetches hparse hinstruction hopen hwaiting
      refine ⟨Command.accepted_pos hparse, congrArg Prod.fst htransmit, fun hshort ↦ ?_⟩
      have hnext : card.next (.transmit raw) = card.perform (.wait command.channel
          ((card.channels.pending command.channel).drop command.accepted)) :=
        congrArg Prod.snd htransmit
      have hpending : (card.next (.transmit raw)).channels.pending command.channel =
          (card.channels.pending command.channel).drop command.accepted := by
        rw [hnext]
        exact ChannelTable.pending_setPending_self hopen _
      have hstill : (card.next (.transmit raw)).channels.isOpen command.channel = true := by
        rw [hnext]
        exact (ChannelTable.isOpen_setPending _ _ _ _).trans hopen
      have hleft : (card.next (.transmit raw)).channels.pending command.channel ≠ [] := by
        rw [hpending, ne_eq, List.drop_eq_nil_iff]
        exact Nat.not_le.mpr hshort
      rw [← hpending]
      exact ih hstill hleft honly

/-- An applet answers a command with an output, and then the rest is fetched, with other operations
in between. Every reply, up to the first that says that nothing is left, goes on where the data
before it ended; and as many replies as there are bytes are enough. -/
theorem response_delivered {raw : List UInt8} {command : Command} {context : ContextId}
    {selecting : Bool} {routed : Card σ} {output : List UInt8} {operations : List (Operation σ)}
    (hparse : Command.parse raw card.config.extendedLength = .ok command)
    (hroute : card.route command = (.ok (.handled context selecting), routed))
    (houtput : routed.output? context command selecting = some output)
    (honly : OnlyFetches command.channel (card.transmit raw).2 operations) :
    let portions : List Portion := ⟨command.accepted, (card.transmit raw).1⟩ ::
      fetched command.channel (card.transmit raw).2 operations
    (∀ before portion later, portions = before ++ portion :: later →
      (∀ earlier ∈ before, earlier.isLast = false) →
        portion.Continues output (before.flatMap Portion.data)) ∧
      (output.length ≤ portions.length → ∃ portion ∈ portions, portion.isLast = true) := by
  intro portions
  obtain ⟨hreply, hopen, hpending⟩ := transmit_of_handled hparse hroute houtput
  have hdelivers : Portion.Delivers output portions := by
    refine ⟨Command.accepted_pos hparse, hreply, fun hshort ↦ ?_⟩
    have hleft : (card.transmit raw).2.channels.pending command.channel ≠ [] := by
      rw [hpending, ne_eq, List.drop_eq_nil_iff]
      exact Nat.not_le.mpr hshort
    rw [← hpending]
    exact delivers_fetched hopen hleft honly
  constructor
  · intro before portion later hsplit hunfinished
    rw [hsplit] at hdelivers
    exact hdelivers.continues hunfinished
  · exact hdelivers.exists_isLast (List.cons_ne_nil _ _)

/-- Five bytes sent to a command that accepts two, and fetched two at a time, with a command on a
closed channel in between. -/
theorem response_delivered_in_threes :
    let aid : Aid := ⟨[0xA0, 0, 0, 0, 1], by decide, by decide⟩
    let applet : Applet Unit := { process := Code.respond [1, 2, 3, 4, 5] }
    let card : Card Unit := {
      config := { atr := "3B" }
      atr := [0x3B]
      platform := ⟨.empty ⟨0, 0, 0⟩ 0, ⟨[(⟨1⟩, some aid), (.system, none)], [], 2⟩⟩
      registry := ⟨[⟨aid, ⟨1⟩, ⟨aid, [], []⟩, applet⟩], 1⟩
      channels := ⟨[⟨true, some ⟨1⟩, []⟩, .closed]⟩
      host := () }
    let command : Command := ⟨0, 0x10, 0, 0, [], some 2, false⟩
    let operations : List (Operation Unit) :=
      [.transmit [0, 0xC0, 0, 0, 2], .transmit [1, 0x10, 0, 0], .transmit [0, 0xC0, 0, 0, 2]]
    (Command.parse [0, 0x10, 0, 0, 2] card.config.extendedLength = .ok command ∧
      card.route command = (.ok (.handled ⟨1⟩ false), (card.route command).2) ∧
      (card.route command).2.output? ⟨1⟩ command false = some [1, 2, 3, 4, 5] ∧
      OnlyFetches command.channel (card.transmit [0, 0x10, 0, 0, 2]).2 operations) ∧
    (⟨2, (card.transmit [0, 0x10, 0, 0, 2]).1⟩ ::
      fetched command.channel (card.transmit [0, 0x10, 0, 0, 2]).2 operations : List Portion) =
        [⟨2, [1, 2, 0x61, 3]⟩, ⟨2, [3, 4, 0x61, 1]⟩, ⟨2, [5, 0x90, 0]⟩] ∧
    (⟨2, [5, 0x90, 0]⟩ : Portion).Continues [1, 2, 3, 4, 5] [1, 2, 3, 4] := by
  intro aid applet card command operations
  have hparse : Command.parse [0, 0x10, 0, 0, 2] card.config.extendedLength = .ok command := by
    decide +kernel
  have hroute : card.route command = (.ok (.handled ⟨1⟩ false), (card.route command).2) :=
    Prod.ext (by decide +kernel) rfl
  have houtput : (card.route command).2.output? ⟨1⟩ command false = some [1, 2, 3, 4, 5] := by
    decide +kernel
  have honly : OnlyFetches command.channel (card.transmit [0, 0x10, 0, 0, 2]).2 operations := by
    refine ⟨.inl (by decide +kernel), .inr ⟨nofun, by decide +kernel, by decide +kernel⟩,
      .inl (by decide +kernel), trivial⟩
  have hportions : (⟨2, (card.transmit [0, 0x10, 0, 0, 2]).1⟩ ::
      fetched command.channel (card.transmit [0, 0x10, 0, 0, 2]).2 operations : List Portion) =
        [⟨2, [1, 2, 0x61, 3]⟩, ⟨2, [3, 4, 0x61, 1]⟩, ⟨2, [5, 0x90, 0]⟩] := by
    decide +kernel
  refine ⟨⟨hparse, hroute, houtput, honly⟩, hportions, ?_⟩
  exact (response_delivered hparse hroute houtput honly).1
    [⟨2, [1, 2, 0x61, 3]⟩, ⟨2, [3, 4, 0x61, 1]⟩] ⟨2, [5, 0x90, 0]⟩ [] hportions (by decide)

end Card

end SmartCard

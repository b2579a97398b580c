import SmartCard.Proofs.Terminal.Traffic

/-!
# Terminals serialise their clients

Served in order, errands are operations on the card one after the other until the terminal is told
to stop (`Card.attend`), and each is answered with what the card replies at that point
(`Card.verdict`), provided that there is memory for the buffer of the card. So every client is
answered as if all errands sent had been carried out one after the other in the order in which they
were sent (`Traffic.Serialises`).
-/

set_option autoImplicit false
set_option relaxedAutoImplicit false

namespace SmartCard

variable {σ : Type} {card : Card σ} {terminal : Terminal σ}

/-! ### Serving in order -/

namespace Errand

/-- The operation on the card that an errand comes to. -/
def operation : Errand → Card.Operation σ
  | .transmit raw => .transmit raw
  | .reset => .reset

/-- What a card replies to an errand. -/
def reply (card : Card σ) : Errand → Reply Empty
  | .transmit raw => .response (card.transmit raw).1
  | .reset => .atr card.atr

end Errand

namespace Card

/-- The card after some messages, of which those behind an order to stop are not carried out. -/
def attend (card : Card σ) : List Message → Card σ
  | [] => card
  | .ask _ errand :: rest => (card.next errand.operation).attend rest
  | .stop :: _ => card

/-- The answer to an errand behind some messages. -/
def verdict (card : Card σ) (before : List Message) (errand : Errand) : Answer :=
  if .stop ∈ before then .error .disconnected else .ok (errand.reply (card.attend before))

theorem config_attend (card : Card σ) (messages : List Message) :
    (card.attend messages).config = card.config := by
  induction messages generalizing card with
  | nil => rfl
  | cons message rest ih =>
    cases message with
    | ask ticket errand => exact (ih _).trans (card.config_next errand.operation)
    | stop => rfl

end Card

namespace Terminal

/-- A terminal carries out an errand, if the buffer of the card can be laid out. -/
theorem serve_of_serving (hstate : terminal.state = .serving card)
    (hbuffer : card.config.bufferSize < blockLimit) (ticket : Ticket) (errand : Errand) :
    terminal.answer (.ask ticket errand) = .ok (errand.reply card) ∧
      (terminal.next (.ask ticket errand)).state = .serving (card.next errand.operation) := by
  obtain ⟨name, state⟩ := terminal
  obtain rfl : state = .serving card := hstate
  cases errand with
  | transmit raw =>
    have hattempt := Card.attempt?_eq_some hbuffer raw
    unfold answer next serve serveCard
    simp only [Message.request, hattempt]
    exact ⟨rfl, rfl⟩
  | reset => exact ⟨rfl, rfl⟩

/-- A terminal serves messages until it is told to stop. -/
theorem state_after (hstate : terminal.state = .serving card)
    (hbuffer : card.config.bufferSize < blockLimit) (messages : List Message) :
    (terminal.after messages).state =
      if .stop ∈ messages then .stopped (card.attend messages)
      else .serving (card.attend messages) := by
  induction messages generalizing terminal card with
  | nil => exact hstate
  | cons message rest ih =>
    rw [after_cons]
    cases message with
    | ask ticket errand =>
      obtain ⟨-, hnext⟩ := serve_of_serving hstate hbuffer ticket errand
      rw [ih hnext ((card.config_next errand.operation).symm ▸ hbuffer)]
      simp only [List.mem_cons, reduceCtorEq, false_or]
      rfl
    | stop =>
      have hnext : (terminal.next .stop).state = .stopped card := by
        unfold next serve
        rw [hstate]
        rfl
      have hidle : (terminal.next .stop).isServing = false := by
        rw [isServing, hnext]
      rw [after_of_idle hidle, hnext, if_pos List.mem_cons_self]
      rfl

/-- Behind some messages it answers as the card would, or as one that has stopped. -/
theorem answer_after (hstate : terminal.state = .serving card)
    (hbuffer : card.config.bufferSize < blockLimit) (before : List Message) (ticket : Ticket)
    (errand : Errand) :
    (terminal.after before).answer (.ask ticket errand) = card.verdict before errand := by
  have hafter := state_after hstate hbuffer before
  unfold Card.verdict
  split at hafter
  · rw [if_pos ‹_›]
    refine (serve_of_idle ?_ _).1
    rw [isServing, hafter]
  · rw [if_neg ‹_›]
    refine (serve_of_serving hafter ?_ ticket errand).1
    rw [card.config_attend]
    exact hbuffer

end Terminal

/-! ### What clients are answered -/

/-- Whether the clients of a terminal are served one after the other, each with the replies to what
it asks for. -/
structure Traffic.Serialises (traffic : Traffic σ) (card : Card σ)
    (clients : List (List Errand)) : Prop where
  /-- Each client asks in its own order, under its own tickets. -/
  sends : traffic.Sends clients
  /-- What has been sent is answered once, or still in the queue. -/
  replied_once : (traffic.replies.map Prod.fst ++ traffic.queue.filterMap Message.ticket?).Perm
    (traffic.sent.filterMap Message.ticket?)
  /-- The answer to an errand is what the card replies when all that was sent before has been
  carried out. -/
  replied_iff : ∀ {before rest : List Message} {ticket : Ticket} {errand : Errand},
    traffic.sent = before ++ .ask ticket errand :: rest → ∀ answer,
      (ticket, answer) ∈ traffic.replies ↔
        ticket ∉ traffic.queue.filterMap Message.ticket? ∧ answer = card.verdict before errand
  /-- The card has carried out what has been taken out of the queue, up to an order to stop. -/
  executed : (∃ done, traffic.sent = done ++ traffic.queue ∧ .stop ∉ done ∧
      traffic.terminal.state = .serving (card.attend done)) ∨
    .stop ∈ traffic.sent ∧ traffic.terminal.state = .stopped (card.attend traffic.sent)
  /-- What is in the queue can be answered. -/
  proceeds : traffic.queue ≠ [] → ∃ later, traffic.Step later ∧
    later.queue = traffic.queue.tail ∧ later.sent = traffic.sent

namespace Traffic

variable {traffic : Traffic σ} {start : Terminal σ} {clients : List (List Errand)}

/-- The replies, and those to come, go to the errands that have been sent. -/
theorem Follows.tickets_perm (hfollows : traffic.Follows start) :
    (traffic.replies.map Prod.fst ++ traffic.queue.filterMap Message.ticket?).Perm
      (traffic.sent.filterMap Message.ticket?) := by
  have hperm := hfollows.replies_perm.map Prod.fst
  rwa [List.map_append, Terminal.map_fst_answers, Terminal.map_fst_answers] at hperm

/-- An errand that is not in the queue any more has the answer to it that a terminal gives which
serves in order, and no other. -/
theorem Follows.replied_iff (hfollows : traffic.Follows start) (hsends : traffic.Sends clients)
    {before rest : List Message} {ticket : Ticket} {errand : Errand}
    (hsent : traffic.sent = before ++ .ask ticket errand :: rest) (answer : Answer) :
    (ticket, answer) ∈ traffic.replies ↔
      ticket ∉ traffic.queue.filterMap Message.ticket? ∧
        answer = (start.after before).answer (.ask ticket errand) := by
  set verdict := (start.after before).answer (.ask ticket errand)
  have hverdict : (ticket, verdict) ∈ start.answers traffic.sent := by
    rw [hsent, Terminal.answers_append, Terminal.answers_cons]
    exact List.mem_append_right _ (List.mem_append_left _ List.mem_cons_self)
  have hnodup : ((start.answers traffic.sent).map Prod.fst).Nodup := by
    rw [Terminal.map_fst_answers]
    exact hsends.nodup_tickets
  have hunique : ∀ {other}, (ticket, other) ∈ start.answers traffic.sent → other = verdict :=
    fun hother ↦ congrArg Prod.snd (List.inj_on_of_nodup_map hnodup hother hverdict rfl)
  have hdisjoint := (List.nodup_append.mp
    (hfollows.tickets_perm.nodup_iff.mpr hsends.nodup_tickets)).2.2
  constructor
  · intro hreply
    refine ⟨fun hqueued ↦ ?_, hunique (hfollows.replies_perm.mem_iff.mp
      (List.mem_append_left _ hreply))⟩
    exact hdisjoint ticket (List.mem_map_of_mem (f := Prod.fst) hreply) ticket hqueued rfl
  · rintro ⟨hunqueued, rfl⟩
    refine (List.mem_append.mp (hfollows.replies_perm.mem_iff.mpr hverdict)).resolve_right ?_
    intro hcoming
    refine hunqueued ?_
    rw [← traffic.terminal.map_fst_answers]
    exact List.mem_map_of_mem (f := Prod.fst) hcoming

/-- However sending and serving alternate, a terminal that serves a card whose buffer can be laid
out serialises its clients. -/
theorem serialises_of_run (hstate : start.state = .serving card)
    (hbuffer : card.config.bufferSize < blockLimit)
    (hrun : (opening start clients).LeadsTo traffic) : traffic.Serialises card clients := by
  obtain ⟨hsends, hfollows⟩ := sends_and_follows hrun
  constructor
  case sends => exact hsends
  case replied_once => exact hfollows.tickets_perm
  case replied_iff =>
    intro before rest ticket errand hsent answer
    rw [hfollows.replied_iff hsends hsent, Terminal.answer_after hstate hbuffer]
  case executed =>
    by_cases hserving : traffic.terminal.isServing = true
    · obtain ⟨done, hsent, hterminal⟩ := hfollows.served hserving
      have hafter := Terminal.state_after hstate hbuffer done
      rw [← hterminal] at hafter
      by_cases hstop : Message.stop ∈ done
      · rw [if_pos hstop] at hafter
        rw [Terminal.isServing, hafter] at hserving
        cases hserving
      · rw [if_neg hstop] at hafter
        exact .inl ⟨done, hsent, hstop, hafter⟩
    · have hidle := Bool.eq_false_of_not_eq_true hserving
      have hafter := Terminal.state_after hstate hbuffer traffic.sent
      rw [← hfollows.after_eq, Terminal.after_of_idle hidle] at hafter
      by_cases hstop : Message.stop ∈ traffic.sent
      · rw [if_pos hstop] at hafter
        exact .inr ⟨hstop, hafter⟩
      · rw [if_neg hstop] at hafter
        rw [Terminal.isServing, hafter] at hserving
        exact absurd rfl hserving
  case proceeds =>
    intro hqueue
    obtain ⟨message, rest, hcons⟩ := List.exists_cons_of_ne_nil hqueue
    exact ⟨_, .serve hcons, by rw [hcons]; rfl, rfl⟩

end Traffic

end SmartCard

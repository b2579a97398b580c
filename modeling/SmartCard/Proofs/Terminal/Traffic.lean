import Mathlib.Data.List.Nodup
import Mathlib.Logic.Relation
import SmartCard.Proofs.Card.Course
import SmartCard.Terminal

/-!
# Clients of a terminal

Any number of clients put what they ask for into the queue of one terminal, each errand with a reply
channel of its own, and the terminal takes one message after the other out of the queue
(`Traffic.Step`). A client may put in an errand before it has the reply to the last one, as one does
that has given up waiting for it. A terminal that has stopped takes in nothing more, and what is
left in its queue is never carried out; both are answered with the error that it is disconnected.

However sending and serving alternate, the replies are those of a terminal that serves everything
sent in the order in which it was sent (`Traffic.Follows`, kept by every step and so by every run).
-/

set_option autoImplicit false
set_option relaxedAutoImplicit false

namespace SmartCard

/-! ### Messages -/

/-- What a client asks for. -/
inductive Errand where
  | transmit (raw : List UInt8)
  | reset
  deriving DecidableEq

/-- The reply channel of an errand: that of the request of a client with a number. -/
structure Ticket where
  client : Nat
  number : Nat
  deriving DecidableEq

/-- What goes through the queue of a terminal. -/
inductive Message where
  | ask (ticket : Ticket) (errand : Errand)
  | stop
  deriving DecidableEq

/-- The answer to a request without a job. -/
abbrev Answer : Type :=
  Except TerminalError (Reply Empty)

namespace Message

variable {σ : Type}

/-- The request that a message is to the terminal. -/
def request : Message → Request σ Empty
  | .ask _ (.transmit raw) => .transmit raw
  | .ask _ .reset => .reset
  | .stop => .stop

/-- The reply channel that a message brings along. -/
def ticket? : Message → Option Ticket
  | .ask ticket _ => some ticket
  | .stop => none

/-- The errand in a message. -/
def errand? : Message → Option Errand
  | .ask _ errand => some errand
  | .stop => none

/-- The errand in a message of a client. -/
def errandOf? (client : Nat) : Message → Option Errand
  | .ask ticket errand => if ticket.client = client then some errand else none
  | .stop => none

/-- What is put into a reply channel when a message is answered. -/
def delivery (message : Message) (answer : Answer) : List (Ticket × Answer) :=
  (message.ticket?.map (·, answer)).toList

theorem map_fst_delivery (message : Message) (answer : Answer) :
    (message.delivery answer).map Prod.fst = message.ticket?.toList := by
  cases message <;> rfl

end Message

/-! ### Serving messages one after another -/

namespace Terminal

variable {σ : Type} {terminal : Terminal σ}

/-- Whether requests are served. -/
def isServing (terminal : Terminal σ) : Bool :=
  match terminal.state with
  | .serving _ => true
  | _ => false

/-- What is put into the reply channels when some messages are served in order. -/
def answers (terminal : Terminal σ) (messages : List Message) : List (Ticket × Answer) :=
  (messages.zip (terminal.serveAll (messages.map Message.request)).1).flatMap
    fun pair ↦ pair.1.delivery pair.2

/-- The terminal after some messages. -/
def after (terminal : Terminal σ) (messages : List Message) : Terminal σ :=
  (terminal.serveAll (messages.map (Message.request (σ := σ)))).2

/-- The terminal after one message. -/
def next (terminal : Terminal σ) (message : Message) : Terminal σ :=
  (terminal.serve (message.request (σ := σ))).2

/-- The answer to one message. -/
def answer (terminal : Terminal σ) (message : Message) : Answer :=
  (terminal.serve message.request).1

theorem after_cons (terminal : Terminal σ) (message : Message) (rest : List Message) :
    terminal.after (message :: rest) = (terminal.next message).after rest :=
  rfl

theorem answers_cons (terminal : Terminal σ) (message : Message) (rest : List Message) :
    terminal.answers (message :: rest) =
      message.delivery (terminal.answer message) ++ (terminal.next message).answers rest :=
  rfl

theorem answers_singleton (terminal : Terminal σ) (message : Message) :
    terminal.answers [message] = message.delivery (terminal.answer message) :=
  List.append_nil _

theorem after_append (terminal : Terminal σ) (first second : List Message) :
    terminal.after (first ++ second) = (terminal.after first).after second := by
  induction first generalizing terminal with
  | nil => rfl
  | cons message rest ih => rw [List.cons_append, after_cons, after_cons, ih]

theorem answers_append (terminal : Terminal σ) (first second : List Message) :
    terminal.answers (first ++ second) =
      terminal.answers first ++ (terminal.after first).answers second := by
  induction first generalizing terminal with
  | nil => rfl
  | cons message rest ih =>
    rw [List.cons_append, answers_cons, answers_cons, ih, after_cons, List.append_assoc]

/-- Each message that brings a reply channel along is answered through it, in order. -/
theorem map_fst_answers (terminal : Terminal σ) (messages : List Message) :
    (terminal.answers messages).map Prod.fst = messages.filterMap Message.ticket? := by
  induction messages generalizing terminal with
  | nil => rfl
  | cons message rest ih =>
    rw [answers_cons, List.map_append, ih, Message.map_fst_delivery, List.filterMap_cons]
    cases message <;> rfl

/-- A terminal that does not serve requests stays as it is and answers that it is disconnected. -/
theorem serve_of_idle (hidle : terminal.isServing = false) (message : Message) :
    terminal.answer message = .error .disconnected ∧ terminal.next message = terminal := by
  obtain ⟨name, state⟩ := terminal
  cases state with
  | serving card => cases hidle
  | stopped card => exact ⟨rfl, rfl⟩
  | empty => exact ⟨rfl, rfl⟩

theorem after_of_idle (hidle : terminal.isServing = false) (messages : List Message) :
    terminal.after messages = terminal := by
  induction messages with
  | nil => rfl
  | cons message rest ih => rw [after_cons, (serve_of_idle hidle message).2, ih]

end Terminal

/-! ### Traffic -/

/-- A terminal, its clients, and what is between them. -/
structure Traffic (σ : Type) where
  terminal : Terminal σ
  queue : List Message
  /-- What each client still has to ask for. -/
  left : List (List Errand)
  /-- All that has been sent, in the order in which it was sent. -/
  sent : List Message
  /-- What has been put into the reply channels. -/
  replies : List (Ticket × Answer)

namespace Traffic

variable {σ : Type} {traffic later : Traffic σ} {start : Terminal σ}
  {clients : List (List Errand)}

/-- A terminal, and clients that have asked for nothing yet. -/
def opening (terminal : Terminal σ) (clients : List (List Errand)) : Traffic σ :=
  ⟨terminal, [], clients, [], []⟩

/-- What a client has asked for. -/
def asked (traffic : Traffic σ) (client : Nat) : List Errand :=
  traffic.sent.filterMap (Message.errandOf? client)

/-- The message with which a client asks for something next. -/
def message (traffic : Traffic σ) (client : Nat) (errand : Errand) : Message :=
  .ask ⟨client, (traffic.asked client).length⟩ errand

/-- The traffic when a message has been sent, with which a client leaves some errands. -/
def note (traffic : Traffic σ) (message : Message) (client : Nat) (rest : List Errand) :
    Traffic σ :=
  { traffic with left := traffic.left.set client rest, sent := traffic.sent ++ [message] }

/-- A client has put its next errand into the queue. -/
def send (traffic : Traffic σ) (client : Nat) (errand : Errand) (rest : List Errand) : Traffic σ :=
  { traffic.note (traffic.message client errand) client rest with
    queue := traffic.queue ++ [traffic.message client errand] }

/-- A client has found that the terminal takes in nothing more. -/
def refuse (traffic : Traffic σ) (client : Nat) (errand : Errand) (rest : List Errand) :
    Traffic σ :=
  { traffic.note (traffic.message client errand) client rest with
    replies := traffic.replies ++
      (traffic.message client errand).delivery (.error .disconnected) }

/-- Somebody has told the terminal to stop. -/
def halt (traffic : Traffic σ) : Traffic σ :=
  { traffic with
    queue := traffic.queue ++ [.stop]
    sent := traffic.sent ++ [.stop] }

/-- The terminal has taken a message out of the queue, and served it if it serves requests. -/
def serve (traffic : Traffic σ) (message : Message) (rest : List Message) : Traffic σ :=
  { traffic with
    terminal := traffic.terminal.next message
    queue := rest
    replies := traffic.replies ++ message.delivery (traffic.terminal.answer message) }

/-- What may happen next. -/
inductive Step (traffic : Traffic σ) : Traffic σ → Prop where
  | send {client : Nat} {errand : Errand} {rest : List Errand}
    (hleft : traffic.left[client]? = some (errand :: rest)) :
    Step traffic (traffic.send client errand rest)
  | refuse {client : Nat} {errand : Errand} {rest : List Errand}
    (hleft : traffic.left[client]? = some (errand :: rest))
    (hidle : traffic.terminal.isServing = false) :
    Step traffic (traffic.refuse client errand rest)
  | halt : Step traffic traffic.halt
  | serve {message : Message} {rest : List Message} (hqueue : traffic.queue = message :: rest) :
    Step traffic (traffic.serve message rest)

/-- The traffic that may come of some. -/
abbrev LeadsTo : Traffic σ → Traffic σ → Prop :=
  Relation.ReflTransGen Step

/-- Whether what is sent by clients is what they ask for, each in its own order and under its own
tickets. -/
structure Sends (traffic : Traffic σ) (clients : List (List Errand)) : Prop where
  asked_append : ∀ {client : Nat} {script : List Errand}, clients[client]? = some script →
    ∃ rest, traffic.left[client]? = some rest ∧ traffic.asked client ++ rest = script
  numbered : ∀ {ticket errand}, Message.ask ticket errand ∈ traffic.sent →
    (traffic.asked ticket.client)[ticket.number]? = some errand
  nodup_tickets : (traffic.sent.filterMap Message.ticket?).Nodup
  perm : (traffic.sent.filterMap Message.errand? ++ traffic.left.flatten).Perm clients.flatten

/-- Whether the replies, with those to what is in the queue, are the replies of a terminal that
serves all that has been sent in the order in which it was sent. -/
structure Follows (traffic : Traffic σ) (start : Terminal σ) : Prop where
  replies_perm : (traffic.replies ++ traffic.terminal.answers traffic.queue).Perm
    (start.answers traffic.sent)
  after_eq : traffic.terminal.after traffic.queue = start.after traffic.sent
  served : traffic.terminal.isServing = true →
    ∃ done, traffic.sent = done ++ traffic.queue ∧ traffic.terminal = start.after done

/-! ### Steps -/

/-- Taking an errand from what a client has left takes it from what all have left. -/
theorem perm_flatten_set {left : List (List Errand)} {client : Nat} {errand : Errand}
    {rest : List Errand} (hleft : left[client]? = some (errand :: rest)) :
    (errand :: (left.set client rest).flatten).Perm left.flatten := by
  induction left generalizing client with
  | nil => cases hleft
  | cons script others ih =>
    cases client with
    | zero =>
      obtain rfl := Option.some_inj.mp hleft
      exact .refl _
    | succ client =>
      rw [List.set_cons_succ, List.flatten_cons, List.flatten_cons]
      exact (List.perm_middle.symm).trans ((ih hleft).append_left script)

theorem asked_note (traffic : Traffic σ) (client other : Nat) (errand : Errand)
    (rest : List Errand) :
    (traffic.note (traffic.message client errand) client rest).asked other =
      traffic.asked other ++ if client = other then [errand] else [] := by
  unfold asked note message
  rw [List.filterMap_append]
  congr 1
  by_cases hsame : client = other
  · rw [if_pos hsame, List.filterMap_cons, Message.errandOf?, if_pos hsame]
    rfl
  · rw [if_neg hsame, List.filterMap_cons, Message.errandOf?, if_neg hsame]
    rfl

/-- A client that sends its next errand sends it in its order and under a fresh ticket. -/
theorem Sends.note (hsends : traffic.Sends clients) {client : Nat} {errand : Errand}
    {rest : List Errand} (hleft : traffic.left[client]? = some (errand :: rest)) :
    (traffic.note (traffic.message client errand) client rest).Sends clients where
  asked_append := by
    intro other script hscript
    obtain ⟨remaining, hremaining, happend⟩ := hsends.asked_append hscript
    rw [asked_note]
    by_cases hsame : client = other
    · subst hsame
      obtain rfl := Option.some_inj.mp (hleft.symm.trans hremaining)
      refine ⟨rest, ?_, ?_⟩
      · exact List.getElem?_set_self (List.getElem?_eq_some_iff.mp hleft).1
      · rw [if_pos rfl, List.append_assoc]
        exact happend
    · refine ⟨remaining, ?_, ?_⟩
      · exact (List.getElem?_set_ne hsame).trans hremaining
      · rw [if_neg hsame, List.append_nil]
        exact happend
  numbered := by
    intro ticket other hsent
    rw [asked_note]
    rcases List.mem_append.mp hsent with hold | hnew
    · have hnumber := hsends.numbered hold
      rw [List.getElem?_append_left (List.getElem?_eq_some_iff.mp hnumber).1]
      exact hnumber
    · obtain ⟨rfl, rfl⟩ := Message.ask.inj (List.mem_singleton.mp hnew)
      dsimp only
      rw [if_pos rfl, List.getElem?_append_right (Nat.le_refl _), Nat.sub_self]
      rfl
  nodup_tickets := by
    have hfresh : (⟨client, (traffic.asked client).length⟩ : Ticket) ∉
        traffic.sent.filterMap Message.ticket? := by
      intro hticket
      obtain ⟨sent, hsent, hsome⟩ := List.mem_filterMap.mp hticket
      cases sent with
      | stop => cases hsome
      | ask ticket other =>
        obtain rfl := Option.some_inj.mp hsome
        exact absurd (List.getElem?_eq_some_iff.mp (hsends.numbered hsent)).1 (Nat.lt_irrefl _)
    rw [Traffic.note, List.filterMap_append]
    exact List.nodup_append.mpr ⟨hsends.nodup_tickets, List.nodup_singleton _,
      fun ticket hold other hnew hsame ↦ hfresh (List.mem_singleton.mp hnew ▸ hsame ▸ hold)⟩
  perm := by
    rw [Traffic.note, List.filterMap_append]
    refine List.Perm.trans ?_ hsends.perm
    rw [List.append_assoc]
    exact (perm_flatten_set hleft).append_left _

/-- An order to stop is nobody's errand. -/
theorem Sends.halt (hsends : traffic.Sends clients) : traffic.halt.Sends clients := by
  have hasked : ∀ client, traffic.halt.asked client = traffic.asked client := by
    intro client
    unfold asked Traffic.halt
    rw [List.filterMap_append]
    exact List.append_nil _
  constructor
  case asked_append =>
    intro client script hscript
    rw [hasked]
    exact hsends.asked_append hscript
  case numbered =>
    intro ticket errand hsent
    rw [hasked]
    refine hsends.numbered ((List.mem_append.mp hsent).resolve_right fun hstop ↦ ?_)
    exact nomatch List.mem_singleton.mp hstop
  case nodup_tickets =>
    rw [Traffic.halt, List.filterMap_append]
    exact (List.append_nil _).symm ▸ hsends.nodup_tickets
  case perm =>
    rw [Traffic.halt, List.filterMap_append]
    exact (List.append_nil (traffic.sent.filterMap Message.errand?)).symm ▸ hsends.perm

/-- Whatever happens, clients go on to send what they ask for. -/
theorem Sends.step (hsends : traffic.Sends clients) (hstep : traffic.Step later) :
    later.Sends clients := by
  cases hstep with
  | send hleft =>
    obtain ⟨hasked, hnumbered, hnodup, hperm⟩ := hsends.note hleft
    exact ⟨hasked, hnumbered, hnodup, hperm⟩
  | refuse hleft _ =>
    obtain ⟨hasked, hnumbered, hnodup, hperm⟩ := hsends.note hleft
    exact ⟨hasked, hnumbered, hnodup, hperm⟩
  | halt => exact hsends.halt
  | serve _ =>
    obtain ⟨hasked, hnumbered, hnodup, hperm⟩ := hsends
    exact ⟨hasked, hnumbered, hnodup, hperm⟩

/-- A message that is put into the queue is served after all that have been sent before. -/
theorem Follows.enqueue (hfollows : traffic.Follows start) (message : Message)
    (hterminal : later.terminal = traffic.terminal)
    (hqueue : later.queue = traffic.queue ++ [message])
    (hsent : later.sent = traffic.sent ++ [message]) (hreplies : later.replies = traffic.replies) :
    later.Follows start where
  replies_perm := by
    rw [hterminal, hqueue, hsent, hreplies, Terminal.answers_append, Terminal.answers_append,
      ← List.append_assoc, hfollows.after_eq]
    exact hfollows.replies_perm.append_right _
  after_eq := by
    rw [hterminal, hqueue, hsent, Terminal.after_append, Terminal.after_append, hfollows.after_eq]
  served := by
    intro hserving
    rw [hterminal] at hserving ⊢
    obtain ⟨done, hdone, hafter⟩ := hfollows.served hserving
    refine ⟨done, ?_, hafter⟩
    rw [hsent, hqueue, hdone, List.append_assoc]

/-- A message that is refused is answered as it would be after all that have been sent before. -/
theorem Follows.refuse (hfollows : traffic.Follows start)
    (hidle : traffic.terminal.isServing = false) (client : Nat) (errand : Errand)
    (rest : List Errand) : (traffic.refuse client errand rest).Follows start := by
  have hafter : start.after traffic.sent = traffic.terminal := by
    rw [← hfollows.after_eq, Terminal.after_of_idle hidle]
  constructor
  case replies_perm =>
    rw [Traffic.refuse, Traffic.note, Terminal.answers_append, hafter, Terminal.answers_singleton,
      (Terminal.serve_of_idle hidle _).1, List.append_assoc]
    refine (List.perm_append_comm.append_left traffic.replies).trans ?_
    rw [← List.append_assoc]
    exact hfollows.replies_perm.append_right _
  case after_eq =>
    rw [Traffic.refuse, Traffic.note, Terminal.after_append, hafter,
      Terminal.after_of_idle hidle, Terminal.after_of_idle hidle]
  case served =>
    intro hserving
    exact absurd (hidle.symm.trans hserving) Bool.false_ne_true

/-- The message that is taken out of the queue is the next one of those sent. -/
theorem Follows.serve (hfollows : traffic.Follows start) {message : Message}
    {rest : List Message} (hqueue : traffic.queue = message :: rest) :
    (traffic.serve message rest).Follows start where
  replies_perm := by
    have hreplies := hfollows.replies_perm
    rw [hqueue, Terminal.answers_cons, ← List.append_assoc] at hreplies
    exact hreplies
  after_eq := by
    rw [Traffic.serve, ← hfollows.after_eq, hqueue]
    rfl
  served := by
    intro hserving
    have hserved : traffic.terminal.isServing = true := by
      by_contra hnot
      rw [Traffic.serve,
        (Terminal.serve_of_idle (Bool.eq_false_of_not_eq_true hnot) message).2] at hserving
      exact hnot hserving
    obtain ⟨done, hsent, hterminal⟩ := hfollows.served hserved
    refine ⟨done ++ [message], ?_, ?_⟩
    · rw [Traffic.serve, hsent, hqueue, List.append_assoc]
      rfl
    · rw [Traffic.serve, Terminal.after_append, ← hterminal]
      rfl

/-- Whatever happens, the replies stay those of a terminal that serves in order. -/
theorem Follows.step (hfollows : traffic.Follows start) (hstep : traffic.Step later) :
    later.Follows start := by
  cases hstep with
  | send => exact hfollows.enqueue _ rfl rfl rfl rfl
  | refuse _ hidle => exact hfollows.refuse hidle _ _ _
  | halt => exact hfollows.enqueue .stop rfl rfl rfl rfl
  | serve hqueue => exact hfollows.serve hqueue

/-! ### Runs -/

theorem sends_opening (terminal : Terminal σ) (clients : List (List Errand)) :
    (opening terminal clients).Sends clients where
  asked_append := fun hscript ↦ ⟨_, hscript, rfl⟩
  numbered := nofun
  nodup_tickets := List.nodup_nil
  perm := .refl _

theorem follows_opening (terminal : Terminal σ) (clients : List (List Errand)) :
    (opening terminal clients).Follows terminal where
  replies_perm := .refl _
  after_eq := rfl
  served := fun _ ↦ ⟨[], rfl, rfl⟩

/-- However sending and serving alternate, clients send what they ask for and get the replies of a
terminal that serves in the order of sending. -/
theorem sends_and_follows (hrun : (opening start clients).LeadsTo traffic) :
    traffic.Sends clients ∧ traffic.Follows start := by
  induction hrun with
  | refl => exact ⟨sends_opening start clients, follows_opening start clients⟩
  | tail _ hstep ih => exact ⟨ih.1.step hstep, ih.2.step hstep⟩

end Traffic

end SmartCard

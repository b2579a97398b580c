import SmartCard.Card.Dispatch

/-!
# Terminals

A terminal holds one card and serves the requests in its queue one at a time, in order, no matter
who put them there. A request to stop ends the service and keeps the card; a job or a command that
breaks down ends it too, and the card is lost. A card is taken out at most once. Whatever is asked
after that is answered with the error that the terminal is disconnected.
-/

set_option autoImplicit false
set_option relaxedAutoImplicit false

namespace SmartCard

/-- A request to a terminal. A job answers with a value and the card after it, or breaks down. -/
inductive Request (σ α : Type) where
  | transmit (raw : List UInt8)
  | reset
  | execute (job : Card σ → Option (α × Card σ))
  | stop

/-- The answer to a request. -/
inductive Reply (α : Type) where
  | response (bytes : List UInt8)
  | atr (bytes : List UInt8)
  | result (value : α)
  | stopped
  deriving DecidableEq

/-- Why a request is not answered. -/
inductive TerminalError where
  | disconnected
  deriving DecidableEq, Repr

/-- The wording of a failure. -/
def TerminalError.message : TerminalError → String
  | .disconnected => "card thread has stopped"

/-- Whether requests are served, and where the card is if not. A terminal is empty once its card is
lost or taken out. -/
inductive TerminalState (σ : Type) where
  | serving (card : Card σ)
  | stopped (card : Card σ)
  | empty

structure Terminal (σ : Type) where
  name : String
  state : TerminalState σ

namespace Terminal

variable {σ α : Type}

/-- A terminal that serves a card. -/
def insert (name : String) (card : Card σ) : Terminal σ :=
  ⟨name, .serving card⟩

/-- The terminal in another state. -/
def become (terminal : Terminal σ) (state : TerminalState σ) : Terminal σ :=
  { terminal with state }

/-- Serves a request with a card. -/
def serveCard (terminal : Terminal σ) (card : Card σ) :
    Request σ α → Except TerminalError (Reply α) × Terminal σ
  | .transmit raw =>
    match card.attempt? raw with
    | some (response, card) => (.ok (.response response), terminal.become (.serving card))
    | none => (.error .disconnected, terminal.become .empty)
  | .reset => (.ok (.atr card.atr), terminal.become (.serving card.reset))
  | .execute job =>
    match job card with
    | some (value, card) => (.ok (.result value), terminal.become (.serving card))
    | none => (.error .disconnected, terminal.become .empty)
  | .stop => (.ok .stopped, terminal.become (.stopped card))

/-- Serves a request, if requests are served. -/
def serve (terminal : Terminal σ) (request : Request σ α) :
    Except TerminalError (Reply α) × Terminal σ :=
  match terminal.state with
  | .serving card => terminal.serveCard card request
  | _ => (.error .disconnected, terminal)

/-- Serves a queue of requests in order. -/
def serveAll (terminal : Terminal σ) :
    List (Request σ α) → List (Except TerminalError (Reply α)) × Terminal σ
  | [] => ([], terminal)
  | request :: rest =>
    let (reply, terminal) := terminal.serve request
    let (replies, terminal) := terminal.serveAll rest
    (reply :: replies, terminal)

/-- Ends the service and takes the card out, if there is one. -/
def eject (terminal : Terminal σ) : Option (Card σ) × Terminal σ :=
  match terminal.state with
  | .serving card | .stopped card => (some card, terminal.become .empty)
  | .empty => (none, terminal)

end Terminal

end SmartCard

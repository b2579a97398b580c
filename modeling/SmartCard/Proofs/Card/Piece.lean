import SmartCard.Proofs.Applet.Call
import SmartCard.Proofs.Card.Scene

/-!
# The code that runs on a card

A stage runs at most one piece of code (`Card.stagePieces`), and `Card.pieces` lists the pieces that
run in the stages of an operation, in order, each with the session that it really starts with. Their
activities are the log of the operation (`Card.log`), and their calls, one operation after another,
are the trace of a run (`Card.trace`).
-/

set_option autoImplicit false
set_option relaxedAutoImplicit false

namespace SmartCard.Card

variable {σ α : Type}

/-- Code that runs in a frame outside any installation. -/
def code (card : Card σ) (frame : Frame) (program : Program (services σ) α) : Piece σ :=
  .code ⟨frame, card.platform, card.host, none⟩ program

def deselectPieces (card : Card σ) (channel : Nat) : List (Piece σ) :=
  match card.channels.selected channel with
  | none => []
  | some context =>
    let cleared := card.setSelected channel none
    match cleared.registry.inContext? context with
    | some entry => [cleared.code ⟨context, channel, false⟩ entry.applet.deselect]
    | none => []

/-- The factory of an installation that may begin, in its fresh context. -/
def installPieces (card : Card σ) (aid : Aid) (data : List UInt8) (factory : Factory σ) :
    List (Piece σ) :=
  match card.admitInstall aid data with
  | .error _ => []
  | .ok params =>
    match card.platform.contexts.create with
    | none => []
    | some (context, contexts) =>
      [.code ⟨⟨context, 0, false⟩, { card.platform with contexts }, card.host,
        some ⟨params, none⟩⟩ (factory params).run]

def inspectPieces (card : Card σ) (aid : Aid) (program : Program (services σ) α) :
    List (Piece σ) :=
  match card.registry.find? aid.bytes with
  | none => []
  | some entry => [card.code ⟨entry.context, 0, false⟩ program]

/-- The code that an applet has for a command. -/
def processPieces (card : Card σ) (channel : Nat) (context : ContextId) (command : Command)
    (selecting : Bool) : List (Piece σ) :=
  match card.registry.inContext? context with
  | none => []
  | some entry =>
    [.handler ⟨⟨context, channel, selecting⟩, card.platform, card.host, none⟩
      (Exchange.start command card.config.bufferSize selecting) entry.applet.process.run]

/-- The code that a stage runs: one piece at most. -/
def stagePieces (card : Card σ) : Stage σ → List (Piece σ)
  | .leave channel => card.deselectPieces channel
  | .enter channel entry =>
    [(card.setSelected channel (some entry.context)).code ⟨entry.context, channel, true⟩
      entry.applet.select]
  | .handle context command selecting =>
    card.processPieces command.channel context command selecting
  | .install aid data factory => card.installPieces aid data factory
  | .expel entry => [card.code ⟨entry.context, 0, false⟩ entry.applet.uninstall]
  | .inspect aid program => card.inspectPieces aid program
  | .wait _ _ | .reserve _ | .shut _ | .reset | .adjust _ | .tell _ => []

/-- The code that stages run one after another. -/
def piecesAlong (card : Card σ) (stages : List (Stage σ)) : List (Piece σ) :=
  (along card stages).flatMap fun scene ↦ scene.1.stagePieces scene.2

theorem piecesAlong_cons (card : Card σ) (stage : Stage σ) (rest : List (Stage σ)) :
    card.piecesAlong (stage :: rest) =
      card.stagePieces stage ++ (card.perform stage).piecesAlong rest :=
  List.flatMap_cons

theorem piecesAlong_append (card : Card σ) (first second : List (Stage σ)) :
    card.piecesAlong (first ++ second) =
      card.piecesAlong first ++ (first.foldl perform card).piecesAlong second := by
  unfold piecesAlong
  rw [along_append, List.flatMap_append]

theorem piecesAlong_singleton (card : Card σ) (stage : Stage σ) :
    card.piecesAlong [stage] = card.stagePieces stage := by
  rw [piecesAlong_cons]
  exact List.append_nil _

/-- The pieces of applet code that an operation runs, in order. -/
def pieces (card : Card σ) (operation : Operation σ) : List (Piece σ) :=
  card.piecesAlong (card.stages operation)

/-- The activities of the pieces of applet code that an operation runs, in order. -/
def log (card : Card σ) (operation : Operation σ) : List Activity :=
  (card.pieces operation).map Piece.activity

/-- The pieces of code of a run, in order. -/
def runPieces (card : Card σ) : List (Operation σ) → List (Piece σ)
  | [] => []
  | operation :: rest => card.pieces operation ++ (card.next operation).runPieces rest

/-- The calls that code makes in a run of operations, in order. -/
def trace (card : Card σ) : List (Operation σ) → List (Call σ)
  | [] => []
  | operation :: rest =>
    (card.pieces operation).flatMap Piece.calls ++ (card.next operation).trace rest

end SmartCard.Card

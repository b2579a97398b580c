import SmartCard.Ending

/-!
# Programs over an interface

Applet code is not known in advance: all that the card relies on is which calls code can make and
what the answers look like. A program is such code, a tree whose inner nodes make a call and go on
according to the answer, and whose leaves end with a value or crash. Because programs are trees,
every one of them ends after finitely many calls.

`Program.run` plays a program against a handler that answers calls and carries a state. A call that
crashes ends the code that made it. What every call keeps, a run keeps (`run_induction`), and
running one program after another is running the two in turn (`run_bind`).
-/

set_option autoImplicit false
set_option relaxedAutoImplicit false

namespace SmartCard

/-- The calls that code can make, each with the type of its answer. -/
structure Interface where
  Call : Type
  Answer : Call → Type

/-- Both the calls of one interface and those of another. -/
def Interface.sum (first second : Interface) : Interface where
  Call := first.Call ⊕ second.Call
  Answer
    | .inl call => first.Answer call
    | .inr call => second.Answer call

/-- Code that ends with a value, crashes with or without a text, or makes a call. -/
inductive Program (interface : Interface) (α : Type) where
  | done (value : α)
  | crash (text : Option String)
  | call (request : interface.Call) (next : interface.Answer request → Program interface α)

namespace Program

variable {interface second : Interface} {σ τ α β : Type}

/-- One program after another. -/
def bind (program : Program interface α) (next : α → Program interface β) :
    Program interface β :=
  match program with
  | .done value => next value
  | .crash text => .crash text
  | .call request continuation => .call request fun answer ↦ (continuation answer).bind next

instance : Monad (Program interface) where
  pure := .done
  bind := bind

/-- The program that makes one call and ends with the answer. -/
def ask (request : interface.Call) : Program interface (interface.Answer request) :=
  .call request .done

/-- The same program where further calls are possible. -/
def extend (program : Program interface α) : Program (interface.sum second) α :=
  match program with
  | .done value => .done value
  | .crash text => .crash text
  | .call request next => .call (.inl request) fun answer ↦ (next answer).extend

/-- Plays a program against a handler: how it ends, and the state it ends in. -/
def run (handle : (request : interface.Call) → σ → Ending (interface.Answer request) × σ) :
    Program interface α → σ → Ending α × σ
  | .done value, state => (.value value, state)
  | .crash text, state => (.crash text, state)
  | .call request next, state =>
    match handle request state with
    | (.value answer, after) => (next answer).run handle after
    | (.crash text, after) => (.crash text, after)

/-- What every call keeps, the whole run keeps. -/
theorem run_induction
    {handle : (request : interface.Call) → σ → Ending (interface.Answer request) × σ}
    {property : σ → Prop}
    (hcall : ∀ request state, property state → property (handle request state).2)
    (program : Program interface α) {state : σ} (hstart : property state) :
    property (program.run handle state).2 := by
  induction program generalizing state with
  | done value => exact hstart
  | crash text => exact hstart
  | call request next ih =>
    have hafter := hcall request state hstart
    rw [run]
    split
    · rename_i answer after hhandle
      rw [hhandle] at hafter
      exact ih answer hafter
    · rename_i text after hhandle
      rw [hhandle] at hafter
      exact hafter

/-- Running one program after another is running the two in turn. -/
theorem run_bind
    (handle : (request : interface.Call) → σ → Ending (interface.Answer request) × σ)
    (program : Program interface α) (next : α → Program interface β) (state : σ) :
    (program.bind next).run handle state =
      match program.run handle state with
      | (.value value, after) => (next value).run handle after
      | (.crash text, after) => (.crash text, after) := by
  induction program generalizing state with
  | done value => rfl
  | crash text => rfl
  | call request continuation ih =>
    rw [bind, run, run]
    split
    · exact ih _ _
    · rfl

instance : LawfulMonad (Program interface) :=
  LawfulMonad.mk' _
    (fun program ↦ by
      change program.bind _ = program
      induction program with
      | done value => rfl
      | crash text => rfl
      | call request next ih => exact congrArg (Program.call request) (funext ih))
    (fun _ _ ↦ rfl)
    (fun program first second ↦ by
      change (program.bind first).bind second = program.bind fun value ↦ (first value).bind second
      induction program with
      | done value => rfl
      | crash text => rfl
      | call request next ih => exact congrArg (Program.call request) (funext ih))

end Program

end SmartCard

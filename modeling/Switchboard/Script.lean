import Switchboard.Event

/-!
# Method bodies

A method body is a `Script`: a finite program whose steps are the things a body may do to the world
around it. What a body computes from its argument is pure and sits between the steps.

* `Action` lists the steps, `Action.Answer` what each gives back.
* `Script.run` runs a script against a handler of single actions; `Script.runToWait` stops where the
  body would wait for its token.

Every script ends, whatever the answers are, and a body reaches nothing that its actions do not
name: its own receiver, its own token, its own peer, and the pending table that came with its
argument.

Results: `run_bind`, `run_runToWait` (stopping at a wait and going on later is the same run).
-/

namespace Switchboard

/-- A step that a method body takes on a receiver with state `σ`. -/
inductive Action (σ : Type) where
  /-- The body begins. -/
  | enter
  /-- Replace the receiver's state; gives the state before. -/
  | receiver (f : σ → σ)
  /-- Ask whether the own token is canceled. -/
  | poll
  /-- Wait until the own token is canceled or the time is up; gives whether it is canceled. -/
  | wait (milliseconds : UInt64)
  /-- Cancel the own token; gives whether this was the first time. -/
  | abandon
  /-- Cancel a sequence number in the pending table that came with the argument, if one did. -/
  | cancel (seq : UInt64)
  /-- Send a note to the calling peer. -/
  | tell (note : String)
  /-- Write a log line. -/
  | log (event : Event)

/-- What an action gives back. -/
def Action.Answer {σ : Type} : Action σ → Type
  | enter | cancel _ | tell _ | log _ => Unit
  | poll | wait _ | abandon => Bool
  | receiver _ => σ

/-- Whether an action is a wait. -/
def Action.isWait {σ : Type} : Action σ → Bool
  | wait _ => true
  | _ => false

/-- A program of actions that ends with an `α`. -/
inductive Script (σ α : Type) where
  | done (a : α)
  | act (a : Action σ) (next : a.Answer → Script σ α)

namespace Script

variable {σ α β S : Type}

/-- Goes on with another script where the first ends. -/
def bind : Script σ α → (α → Script σ β) → Script σ β
  | done a, f => f a
  | act a next, f => act a fun x => (next x).bind f

instance : Monad (Script σ) where
  pure := done
  bind := bind

/-- One action as a script. -/
def perform (a : Action σ) : Script σ a.Answer := act a done

/-- Replaces the receiver's state and gives the state before. -/
def updateReceiver (f : σ → σ) : Script σ σ := perform (.receiver f)

/-- The receiver's state. -/
def readReceiver : Script σ σ := perform (.receiver id)

/-- Whether the own token is canceled. -/
def poll : Script σ Bool := perform .poll

/-- Waits for the own token to be canceled, but not for ever. -/
def wait (milliseconds : UInt64) : Script σ Bool := perform (.wait milliseconds)

/-- Cancels a sequence number in the table that came with the argument. -/
def cancel (seq : UInt64) : Script σ Unit := perform (.cancel seq)

/-- Sends a note to the calling peer. -/
def tell (note : String) : Script σ Unit := perform (.tell note)

/-- Writes a log line. -/
def log (event : Event) : Script σ Unit := perform (.log event)

/-- Runs a script; `handle` says what one action does to the state and gives back. -/
def run (handle : (a : Action σ) → S → a.Answer × S) : Script σ α → S → α × S
  | done a, s => (a, s)
  | act a next, s =>
    let (x, s) := handle a s
    (next x).run handle s

/-- Runs a script up to its first wait, and gives the script that is left. -/
def runToWait (handle : (a : Action σ) → S → a.Answer × S) : Script σ α → S → Script σ α × S
  | done a, s => (done a, s)
  | act a next, s =>
    if a.isWait then (act a next, s)
    else
      let (x, s) := handle a s
      (next x).runToWait handle s

/-- Running two scripts in a row is running the first and then the second. -/
theorem run_bind (handle : (a : Action σ) → S → a.Answer × S) (p : Script σ α)
    (f : α → Script σ β) (s : S) :
    (p.bind f).run handle s = (f (p.run handle s).1).run handle (p.run handle s).2 := by
  induction p generalizing s with
  | done a => rfl
  | act a next ih => exact ih (handle a s).1 (handle a s).2

/-- Stopping at the first wait and going on later is the same run. -/
theorem run_runToWait (handle : (a : Action σ) → S → a.Answer × S) (p : Script σ α) (s : S) :
    (p.runToWait handle s).1.run handle (p.runToWait handle s).2 = p.run handle s := by
  induction p generalizing s with
  | done a => rfl
  | act a next ih =>
    unfold runToWait
    split
    · rfl
    · exact ih (handle a s).1 (handle a s).2

end Script

end Switchboard

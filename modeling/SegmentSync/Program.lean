import SegmentSync.Protocol.Reply
import SegmentSync.Protocol.Request
import SegmentSync.Error
import SegmentSync.Session.Progress

/-!
# `SegmentSync.Program` — what a session asks of its surroundings

A session does not touch the world. It is a program that asks for one effect at a time and goes on with the
answer, so that it can be run against real connections, against simulated stores, or against any answers at
all.

## Contents
- **Effects.** `Effect`: a request over a link, a fresh connection, the state of the stop signal, waits, a
  progress report, a line of the log, the time. `Effect.Answer` is the type of the answer to each; `Wake` says
  how a wait has ended.
- **Programs.** `Program`: a tree of effects, one branch for each answer; a lawful monad.
- **Pauses.** `Program.sleep` waits unless the stop signal fires.
- **Runs.** `Program.run` answers every effect by a handler in some monad. What holds of a handler's answers
  carries over: `run_done` and `run_bind` say that a run goes through a program in order.
-/

namespace SegmentSync

/-! ## Effects -/

/-- What can be asked for. `ι` names the links to stores. -/
inductive Effect (ι : Type) where
  /-- Send a request and wait for its reply. -/
  | execute (link : ι) (request : Request)
  /-- Drop the connection, if there is one, and open a fresh one; logins and selections are lost. -/
  | reopen (link : ι)
  /-- Whether the stop signal has fired. -/
  | stopRequested
  /-- Wait until the time is over, the stop signal fires, or nobody can fire it any more. -/
  | wait (time : Duration)
  /-- Wait until the time is over, whatever happens. -/
  | rest (time : Duration)
  /-- Hand a report to the observer. -/
  | report (report : Report)
  /-- Write a line to the log. -/
  | log (level : Level) (line : String)
  /-- The time since some fixed moment. -/
  | clock
  deriving DecidableEq

/-- How a wait has ended. Where two of these have come true by the time that anyone looks, either may be what the
    wait has ended by. -/
inductive Wake where
  /-- The time is over. -/
  | elapsed
  /-- The stop signal has fired. -/
  | signalled
  /-- Nobody can fire the stop signal any more, with so much of the time left. -/
  | abandoned (left : Duration)
  deriving DecidableEq, Repr

/-- The type of the answer to an effect. -/
def Effect.Answer {ι : Type} : Effect ι → Type
  | .execute _ _ => Except ProtocolError Reply
  | .reopen _ => Except ProtocolError Unit
  | .stopRequested => Bool
  | .wait _ => Wake
  | .rest _ => Unit
  | .report _ => Unit
  | .log _ _ => Unit
  | .clock => Duration

/-! ## Programs -/

/-- A program that ends with a value of type `α`. -/
inductive Program (ι α : Type) where
  | done (value : α)
  | ask (effect : Effect ι) (next : effect.Answer → Program ι α)

namespace Program

variable {ι α β : Type}

/-- One program after another. -/
def bind : Program ι α → (α → Program ι β) → Program ι β
  | .done value, f => f value
  | .ask effect next, f => .ask effect fun answer => (next answer).bind f

instance : Monad (Program ι) where
  pure := .done
  bind := bind

/-- The program that asks for one effect and ends with its answer. -/
def perform (effect : Effect ι) : Program ι effect.Answer := .ask effect .done

@[simp] theorem pure_eq_done (value : α) : (pure value : Program ι α) = .done value := rfl

@[simp] theorem done_bind (value : α) (f : α → Program ι β) : (Program.done value >>= f) = f value := rfl

@[simp] theorem ask_bind (effect : Effect ι) (next : effect.Answer → Program ι α)
    (f : α → Program ι β) :
    (Program.ask effect next >>= f) = .ask effect fun answer => next answer >>= f := rfl

theorem bind_done (p : Program ι α) : p >>= Program.done = p := by
  induction p with
  | done value => rfl
  | ask effect next ih => simp only [ask_bind, ih]

theorem bind_assoc {γ : Type} (p : Program ι α) (f : α → Program ι β) (g : β → Program ι γ) :
    p >>= f >>= g = p >>= fun a => f a >>= g := by
  induction p with
  | done value => rfl
  | ask effect next ih => simp only [ask_bind, ih]

instance : LawfulMonad (Program ι) := LawfulMonad.mk' _ bind_done done_bind bind_assoc

/-! ## Pauses -/

/-- Waits unless the stop signal fires; whether it has. Whoever is told that it has not may find that it has fired all
    the same, as the time may have been over as well. -/
def sleep (time : Duration) : Program ι Bool := do
  let fired : Bool ← perform .stopRequested
  if fired then return true
  match ← perform (.wait time) with
  | .elapsed => return false
  | .signalled => return true
  | .abandoned left =>
    perform (.rest left)
    return false

/-! ## Runs -/

variable {m : Type → Type} [Monad m]

/-- Runs a program, with `handle` for its effects. -/
def run (handle : (effect : Effect ι) → m effect.Answer) : Program ι α → m α
  | .done value => Pure.pure value
  | .ask effect next => handle effect >>= fun answer => (next answer).run handle

@[simp] theorem run_done (handle : (effect : Effect ι) → m effect.Answer) (value : α) :
    (Program.done value).run handle = Pure.pure value := rfl

@[simp] theorem run_ask (handle : (effect : Effect ι) → m effect.Answer) (effect : Effect ι)
    (next : effect.Answer → Program ι α) :
    (Program.ask effect next).run handle = handle effect >>= fun answer => (next answer).run handle :=
  rfl

/-- The runs of two programs in a row are the run of both. -/
theorem run_bind [LawfulMonad m] (handle : (effect : Effect ι) → m effect.Answer)
    (p : Program ι α) (f : α → Program ι β) :
    (p >>= f).run handle = p.run handle >>= fun a => (f a).run handle := by
  induction p with
  | done value => simp
  | ask effect next ih => simp [ih]

end Program

end SegmentSync

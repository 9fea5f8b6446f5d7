import VolumeController.Event
import VolumeController.Platform.Call
/-!
Procedures: the programs of requests. A procedure acts at once, waits for answers, and goes on with
what it is told; who answers, when, and what runs in between is left open. Every wait belongs to a
request and may be aborted by the request's context instead of being answered.
-/

namespace VolumeController

/-- How a context ends a wait. -/
inductive Abort where
  | cancelled
  | deadlineExceeded
  deriving DecidableEq, Repr

/-- The name that a lock guards, within one table of locks. -/
structure LockName where
  table : Nat
  name : String
  deriving DecidableEq, Repr

/-- The identity of a lock. -/
abbrev LockId := Nat

/-- What a procedure waits for. -/
inductive Wait where
  | call (c : Call)
  /-- The disk listings of several datacenters, asked for at once. -/
  | listings (datacenters : List Datacenter)
  | lock (lock : LockId)
  /-- Work of a known length, in milliseconds; none never ends. -/
  | work (duration : Option Nat)
  deriving DecidableEq

/-- What a wait is answered with. -/
abbrev Wait.Answer : Wait → Type
  | .call c => c.Reply
  | .listings _ => List (Except BackendError (List Disk))
  | .lock _ => Unit
  | .work _ => Unit

/-- What a procedure does at once. -/
inductive Action where
  /-- Writes to the log. -/
  | note (event : Event)
  /-- Counts a finished request: its operation, and the code of its error or none for success. -/
  | observe (operation : String) (code : Option StatusCode)
  /-- Asks for the names of the configured virtual centers. -/
  | centers
  /-- Takes a handle on the lock of a name, which enters the table if it is not there. -/
  | takeHandle (name : LockName)
  /-- Lets go of a held lock; the first waiter gets it. -/
  | unlock (lock : LockId)
  /-- Gives a handle back. -/
  | dropHandle (lock : LockId)
  /-- Removes the lock of a name from the table if nobody has a handle on it. -/
  | sweep (name : LockName)
  deriving DecidableEq

/-- What an action is answered with. -/
abbrev Action.Answer : Action → Type
  | .centers => List String
  | .takeHandle _ => LockId
  | _ => Unit

/-- A program that ends with a result. -/
inductive Procedure (α : Type) where
  | done (result : α)
  | act (action : Action) (next : action.Answer → Procedure α)
  | await (wait : Wait) (next : Except Abort wait.Answer → Procedure α)

namespace Procedure

variable {α β γ : Type}

/-- Goes on with a second procedure after the first. -/
def bind (p : Procedure α) (f : α → Procedure β) : Procedure β :=
  match p with
  | .done a => f a
  | .act action next => .act action fun answer => (next answer).bind f
  | .await wait next => .await wait fun answer => (next answer).bind f

instance : Monad Procedure where
  pure := .done
  bind := bind

@[simp] theorem pure_eq_done (a : α) : (pure a : Procedure α) = .done a := rfl

@[simp] theorem done_bind (a : α) (f : α → Procedure β) : (Procedure.done a >>= f) = f a := rfl

@[simp] theorem act_bind (action : Action) (next : action.Answer → Procedure α)
    (f : α → Procedure β) : (Procedure.act action next >>= f) = .act action fun b => next b >>= f := rfl

@[simp] theorem await_bind (wait : Wait) (next : Except Abort wait.Answer → Procedure α)
    (f : α → Procedure β) :
    (Procedure.await wait next >>= f) = .await wait fun b => next b >>= f := rfl

theorem bind_done (p : Procedure α) : (p >>= Procedure.done) = p := by
  induction p with
  | done a => rfl
  | act action next ih => simp [ih]
  | await wait next ih => simp [ih]

theorem bind_assoc (p : Procedure α) (f : α → Procedure β) (g : β → Procedure γ) :
    (p >>= f >>= g) = p >>= fun a => f a >>= g := by
  induction p with
  | done a => rfl
  | act action next ih => simp [ih]
  | await wait next ih => simp [ih]

instance : LawfulMonad Procedure :=
  .mk' Procedure (fun p => bind_done p) (fun _ _ => rfl) bind_assoc

/-- Acts once. -/
def perform (action : Action) : Procedure action.Answer :=
  .act action .done

/-- Waits once. -/
def wait (w : Wait) : Procedure (Except Abort w.Answer) :=
  .await w .done

end Procedure

/-- A procedure that may fail. -/
abbrev Operation (α : Type) := ExceptT Error Procedure α

namespace Operation

variable {α : Type}

/-- Acts once. -/
def perform (action : Action) : Operation action.Answer :=
  ExceptT.lift (Procedure.perform action)

/-- Writes to the log. -/
def note (event : Event) : Operation Unit :=
  perform (.note event)

/-- Notes a cause as a failure and ends with its error. -/
def reject (cause : Cause) : Operation α := do
  note (.failed cause)
  throw cause.toError

/-- The error of an aborted operation. -/
def abortError (operation : String) : Abort → Error
  | .cancelled => .cancelled operation
  | .deadlineExceeded => .deadlineExceeded operation

/-- Waits on behalf of a named operation; an abort becomes an error that names it. -/
def wait (operation : String) (w : Wait) : Operation w.Answer :=
  ExceptT.mk do
    match ← Procedure.wait w with
    | .ok answer => return .ok answer
    | .error abort => return .error (abortError operation abort)

/-- Puts a call to the platform on behalf of a named operation. -/
def call (operation : String) (c : Call) : Operation c.Reply :=
  wait operation (.call c)

/-- The result of an operation, be it an error. -/
def attempt (op : Operation α) : Operation (Except Error α) :=
  ExceptT.lift op.run

/-- Ends with the error of a failed computation, noting its cause. -/
def ofCause (result : Except Cause α) : Operation α :=
  match result with
  | .ok a => pure a
  | .error cause => reject cause

end Operation

end VolumeController

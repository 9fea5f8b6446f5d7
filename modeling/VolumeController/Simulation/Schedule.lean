import VolumeController.Simulation.World
/-!
The schedule: tasks that run side by side in virtual time. Every task runs until it has to wait; when
all wait, the clock jumps to the next time at which a wait can end. At one instant tasks run in the
order of their list, and a wait ends by cancellation before it ends by its deadline, and by its deadline
before it is answered.
-/

namespace VolumeController

open World

/-- A cancellation that is due at some time. -/
structure Timer where
  due : Nat
  token : Nat
  deriving DecidableEq, Repr

/-- A world with the cancellations that are still to come, and the names that were given to contexts and
tokens. -/
structure Lab (σ : Type) where
  world : World σ
  timers : List Timer := []
  contexts : List (String × Context) := []
  tokens : List (String × Nat) := []
  nextToken : Nat := 1

variable {σ : Type} [Platform σ] {α : Type}

/-- A procedure that waits: the wait, and what follows its end. -/
structure Suspended (σ : Type) [Platform σ] (α : Type) where
  wait : Wait
  pending : Pending σ wait
  next : Except Abort wait.Answer → Procedure α

/-- Runs a procedure until it ends or has to wait. -/
def Procedure.advance (task : Nat) (ctx : Context) :
    Procedure α → World σ → (α ⊕ Suspended σ α) × World σ
  | .done a, w => (.inl a, w)
  | .act action next, w =>
    let (answer, w) := w.perform action
    (next answer).advance task ctx w
  | .await wait next, w =>
    match w.abort? ctx with
    | some abort => (next (.error abort)).advance task ctx w
    | none =>
      let (pending, w) := w.openWait task wait
      match w.poll task pending with
      | (.inr answer, w) => (next (.ok answer)).advance task ctx w
      | (.inl pending, w) => (.inr ⟨wait, pending, next⟩, w)

/-- Goes on with a procedure that waits, if its wait can end now. -/
def Suspended.resume (s : Suspended σ α) (task : Nat) (ctx : Context) (w : World σ) :
    Bool × (α ⊕ Suspended σ α) × World σ :=
  match w.abort? ctx with
  | some abort => (true, (s.next (.error abort)).advance task ctx (w.giveUp task s.wait))
  | none =>
    match w.poll task s.pending with
    | (.inr answer, w) => (true, (s.next (.ok answer)).advance task ctx w)
    | (.inl pending, w) => (false, .inr { s with pending }, w)

/-- One of several procedures that run side by side. -/
inductive Task (σ : Type) [Platform σ] (α : Type) where
  /-- Starts at a time, with a context and a procedure that may depend on what it finds. -/
  | scheduled (due : Nat) (start : Lab σ → (Context × Procedure α) × Lab σ)
  | suspended (ctx : Context) (s : Suspended σ α)
  | finished (result : α)

namespace Task

/-- The task that a run of a procedure leaves. -/
def ofRun (ctx : Context) : α ⊕ Suspended σ α → Task σ α
  | .inl a => .finished a
  | .inr s => .suspended ctx s

/-- Runs a task as far as it can go now; the first part of the result tells whether it went on. -/
def step (task : Nat) (lab : Lab σ) : Task σ α → Bool × Task σ α × Lab σ
  | .scheduled due start =>
    if due ≤ lab.world.now then
      let ((ctx, p), lab) := start lab
      let (run, world) := p.advance task ctx lab.world
      (true, .ofRun ctx run, { lab with world })
    else (false, .scheduled due start, lab)
  | .suspended ctx s =>
    let (moved, run, world) := s.resume task ctx lab.world
    (moved, .ofRun ctx run, { lab with world })
  | .finished a => (false, .finished a, lab)

/-- Whether a task has ended. -/
def isFinished : Task σ α → Bool
  | .finished _ => true
  | _ => false

/-- The times at which a task may go on. -/
def dues : Task σ α → List Nat
  | .scheduled due _ => [due]
  | .suspended ctx s => ctx.deadline.toList ++ s.pending.dues
  | .finished _ => []

/-- The result of a task that has ended. -/
def result? : Task σ α → Option α
  | .finished a => some a
  | _ => none

/-- Runs tasks in order as far as each can go now. Tasks are known by their numbers. -/
def pass (lab : Lab σ) : Nat → List (Task σ α) → Bool × List (Task σ α) × Lab σ
  | _, [] => (false, [], lab)
  | number, task :: tasks =>
    let (moved, task, lab) := task.step number lab
    let (others, tasks, lab) := pass lab (number + 1) tasks
    (moved || others, task :: tasks, lab)

end Task

namespace Lab

/-- Carries out the cancellations that are due. -/
def fireTimers (lab : Lab σ) : Bool × Lab σ :=
  let (fired, waiting) := lab.timers.partition (·.due ≤ lab.world.now)
  (!fired.isEmpty,
    { lab with
      timers := waiting
      world := { lab.world with cancelled := fired.map (·.token) ++ lab.world.cancelled } })

/-- The next time at which something can happen. -/
def nextTime? (lab : Lab σ) (tasks : List (Task σ α)) : Option Nat :=
  ((tasks.flatMap Task.dues ++ lab.timers.map (·.due)).filter (lab.world.now < ·)).min?

/-- Runs tasks until all have ended, or nothing can happen any more, or the given number of rounds is
over. A round lets every task run once at one instant. -/
def run : Nat → List (Task σ α) → Lab σ → List (Task σ α) × Lab σ
  | 0, tasks, lab => (tasks, lab)
  | rounds + 1, tasks, lab =>
    let (moved, tasks, lab) := Task.pass lab 0 tasks
    if tasks.all Task.isFinished then (tasks, lab)
    else
      let (fired, lab) := lab.fireTimers
      if moved || fired then run rounds tasks lab
      else match lab.nextTime? tasks with
        | none => (tasks, lab)
        | some now => run rounds tasks { lab with world := { lab.world with now } }

end Lab

end VolumeController

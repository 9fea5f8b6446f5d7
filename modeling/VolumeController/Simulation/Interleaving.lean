import Mathlib.Logic.Relation
import VolumeController.Simulation.Bench
import VolumeController.Simulation.Schedule
/-! Interleavings: threads that are carried out on one world in any order. A thread's step is the
smallest that can be told apart from outside: one action, the beginning of one wait, or its end. Between
any two steps the clock may move on, tokens may be cancelled and commands may reach the platform. Unlike
the schedule, nothing here says which thread is next. -/

namespace VolumeController

variable {σ : Type} {α : Type}

/-! A step replaces one entry of a list of threads, or of what is known of each of them. -/

theorem getElem?_set_cases {β : Type} {l : List β} {n i : Nat} {a b : β} (h : (l.set n a)[i]? = some b) :
    (n = i ∧ b = a) ∨ (n ≠ i ∧ l[i]? = some b) := by
  by_cases hSame : n = i
  · subst hSame
    have hNumber : n < l.length := by simpa using (List.getElem?_eq_some_iff.1 h).1
    rw [List.getElem?_set_self hNumber] at h
    exact .inl ⟨rfl, (Option.some.inj h).symm⟩
  · rw [List.getElem?_set_ne hSame] at h
    exact .inr ⟨hSame, h⟩

theorem set_of_getElem? {β : Type} {l : List β} {n : Nat} {a : β} (h : l[n]? = some a) : l.set n a = l := by
  obtain ⟨hn, rfl⟩ := List.getElem?_eq_some_iff.1 h
  exact List.set_getElem_self hn

/-- How far a procedure has come: it is about to go on, or it waits. -/
inductive Progress (σ : Type) [Platform σ] (α : Type) where
  | running (p : Procedure α)
  | waiting (s : Suspended σ α)

/-- A procedure that is carried out under a context. -/
structure Thread (σ : Type) [Platform σ] (α : Type) where
  ctx : Context
  progress : Progress σ α

namespace Thread

variable [Platform σ]

/-- A thread that has not done anything yet. -/
def start (job : Context × Procedure α) : Thread σ α :=
  ⟨job.1, .running job.2⟩

/-- The result of a thread that has ended. -/
def result? (t : Thread σ α) : Option α :=
  match t.progress with
  | .running (.done a) => some a
  | _ => none

/-- One step of a thread, by its number among the threads. A context that ends a wait does so before the
answer is looked at; `aborts` says whether contexts end waits at all in the runs under view. -/
inductive Step (aborts : Prop) (number : Nat) :
    Thread σ α → World σ → Thread σ α → World σ → Prop where
  | act {ctx : Context} {w : World σ} (action : Action) (next : action.Answer → Procedure α) :
      Step aborts number ⟨ctx, .running (.act action next)⟩ w
        ⟨ctx, .running (next (w.perform action).1)⟩ (w.perform action).2
  | refuse {ctx : Context} {w : World σ} {wait : Wait} {abort : Abort}
      {next : Except Abort wait.Answer → Procedure α}
      (hAborts : aborts) (hAbort : w.abort? ctx = some abort) :
      Step aborts number ⟨ctx, .running (.await wait next)⟩ w ⟨ctx, .running (next (.error abort))⟩ w
  | enter {ctx : Context} {w : World σ} {wait : Wait}
      {next : Except Abort wait.Answer → Procedure α} (hAbort : w.abort? ctx = none) :
      Step aborts number ⟨ctx, .running (.await wait next)⟩ w
        ⟨ctx, .waiting ⟨wait, (w.openWait number wait).1, next⟩⟩ (w.openWait number wait).2
  | abandon {ctx : Context} {w : World σ} {s : Suspended σ α} {abort : Abort}
      (hAborts : aborts) (hAbort : w.abort? ctx = some abort) :
      Step aborts number ⟨ctx, .waiting s⟩ w ⟨ctx, .running (s.next (.error abort))⟩
        (w.giveUp number s.wait)
  | answer {ctx : Context} {w w' : World σ} {s : Suspended σ α} {answer : s.wait.Answer}
      (hAbort : w.abort? ctx = none) (hPoll : w.poll number s.pending = (.inr answer, w')) :
      Step aborts number ⟨ctx, .waiting s⟩ w ⟨ctx, .running (s.next (.ok answer))⟩ w'
  | linger {ctx : Context} {w w' : World σ} {s : Suspended σ α} {pending : World.Pending σ s.wait}
      (hAbort : w.abort? ctx = none) (hPoll : w.poll number s.pending = (.inl pending, w')) :
      Step aborts number ⟨ctx, .waiting s⟩ w ⟨ctx, .waiting { s with pending }⟩ w'

end Thread

/-- Threads and the world that they share. A thread is known by its place in the list. -/
structure System (σ : Type) [Platform σ] (α : Type) where
  world : World σ
  threads : List (Thread σ α)

/-- What may happen around the threads: whether their contexts end waits, and which commands reach the
platform. The clock and the tokens are always free to move. -/
structure Surroundings (σ : Type) [Bench σ] where
  aborts : Prop
  commands : Bench.Command σ → Prop

namespace System

/-- Threads that are about to begin, each with its context. -/
def start [Platform σ] (w : World σ) (jobs : List (Context × Procedure α)) : System σ α :=
  ⟨w, jobs.map Thread.start⟩

/-- The result of a thread, once it has ended. -/
def result? [Platform σ] (s : System σ α) (number : Nat) : Option α :=
  s.threads[number]?.bind Thread.result?

/-- Whether every thread has ended. -/
def Finished [Platform σ] (s : System σ α) : Prop :=
  ∀ t ∈ s.threads, t.result?.isSome

variable [Bench σ]

/-- One step of some thread, or one change from outside. -/
inductive Step (env : Surroundings σ) : System σ α → System σ α → Prop where
  | thread {s : System σ α} {number : Nat} {t t' : Thread σ α} {w' : World σ}
      (hThread : s.threads[number]? = some t) (hStep : t.Step env.aborts number s.world t' w') :
      Step env s ⟨w', s.threads.set number t'⟩
  | clock {s : System σ α} (now : Nat) (hNow : s.world.now ≤ now) :
      Step env s { s with world := { s.world with now } }
  | cancel {s : System σ α} (token : Nat) :
      Step env s { s with world := { s.world with cancelled := token :: s.world.cancelled } }
  | command {s : System σ α} (c : Bench.Command σ) (hCommand : env.commands c) :
      Step env s
        { s with world := { s.world with platform := (Bench.obey c s.world.platform).2 } }

/-- Any number of steps, in any order. -/
abbrev Runs (env : Surroundings σ) : System σ α → System σ α → Prop :=
  Relation.ReflTransGen (Step env)

end System

end VolumeController

import VolumeController.Controller
import VolumeController.Proofs.Interleaving.Rules
/-! Contracts of procedures, whoever answers them. A procedure meets a contract if, told only what the
contract promises, it waits only for what the contract allows and ends as wanted. Paths are the ways that a
procedure can go. Main results: on a path that keeps the promise a procedure that meets its contract ends as
wanted, and every thread of every system got by a path to where it is. -/

namespace VolumeController

variable {σ α β : Type}

/-- What a procedure may wait for, and what it may be told. -/
structure Contract where
  asks : Wait → Prop := fun _ => True
  told : (wait : Wait) → Except Abort wait.Answer → Prop

/-- Whether a procedure keeps to a contract and ends as wanted. -/
def Procedure.Meets (C : Contract) (goal : α → Prop) : Procedure α → Prop
  | .done a => goal a
  | .act _ next => ∀ answer, Meets C goal (next answer)
  | .await wait next => C.asks wait ∧ ∀ answer, C.told wait answer → Meets C goal (next answer)

namespace Procedure.Meets

variable {C : Contract}

theorem mono {p : Procedure α} {goal goal' : α → Prop} (h : p.Meets C goal) (hGoal : ∀ a, goal a → goal' a) :
    p.Meets C goal' := by
  induction p with
  | done a => exact hGoal a h
  | act action next ih => exact fun answer => ih answer (h answer)
  | await wait next ih => exact ⟨h.1, fun answer hTold => ih answer (h.2 answer hTold)⟩

theorem bind {p : Procedure α} {f : α → Procedure β} {goal : β → Prop}
    (h : p.Meets C fun a => (f a).Meets C goal) : (p >>= f).Meets C goal := by
  induction p with
  | done a => exact h
  | act action next ih => exact fun answer => ih answer (h answer)
  | await wait next ih => exact ⟨h.1, fun answer hTold => ih answer (h.2 answer hTold)⟩

/-! Operations. -/

theorem bindOperation {op : Operation α} {f : α → Operation β} {goal : Except Error β → Prop}
    (h : op.run.Meets C fun
      | .ok a => (f a).run.Meets C goal
      | .error e => goal (.error e)) : (op >>= f).run.Meets C goal := by
  apply bind
  apply h.mono
  intro result hResult
  cases result <;> exact hResult

theorem note {event : Event} {goal : Except Error Unit → Prop} (h : goal (.ok ())) :
    (Operation.note event).run.Meets C goal :=
  fun _ => h

theorem afterNote {event : Event} {op : Operation α} {goal : Except Error α → Prop} (h : op.run.Meets C goal) :
    (do Operation.note event; op : Operation α).run.Meets C goal :=
  bindOperation (note h)

theorem reject {cause : Cause} {goal : Except Error α → Prop} (h : goal (.error cause.toError)) :
    (Operation.reject cause : Operation α).run.Meets C goal :=
  afterNote h

theorem ofCause {result : Except Cause α} {goal : Except Error α → Prop}
    (h : goal (result.mapError Cause.toError)) : (Operation.ofCause result).run.Meets C goal := by
  cases result with
  | ok a => exact h
  | error cause => exact reject h

theorem wait {operation : String} {wait : Wait} {goal : Except Error wait.Answer → Prop} (hAsks : C.asks wait)
    (hAbort : ∀ abort, C.told wait (.error abort) → goal (.error (Operation.abortError operation abort)))
    (hAnswer : ∀ answer, C.told wait (.ok answer) → goal (.ok answer)) :
    (Operation.wait operation wait).run.Meets C goal := by
  refine ⟨hAsks, fun answer hTold => ?_⟩
  cases answer with
  | error abort => exact hAbort abort hTold
  | ok answer => exact hAnswer answer hTold

theorem call {operation : String} {c : Call} {goal : Except Error c.Reply → Prop} (hAsks : C.asks (.call c))
    (hAbort : ∀ abort, C.told (.call c) (.error abort) →
      goal (.error (Operation.abortError operation abort)))
    (hAnswer : ∀ reply, C.told (.call c) (.ok reply) → goal (.ok reply)) :
    (Operation.call operation c).run.Meets C goal :=
  wait hAsks hAbort hAnswer

theorem attempt {op : Operation α} {goal : Except Error (Except Error α) → Prop}
    (h : op.run.Meets C fun result => goal (.ok result)) : (Operation.attempt op).run.Meets C goal :=
  bind h

theorem instrumented {name : String} {op : Operation α} {goal : Except Error α → Prop}
    (h : op.run.Meets C goal) : (Controller.instrumented name op).run.Meets C goal :=
  bind (h.mono fun _ hGoal _ => hGoal)

/-- An operation under a lock that may always be asked for. -/
theorem locked {name : LockName} {op : Operation α} {goal : Except Error α → Prop}
    (hAsks : ∀ lock, C.asks (.lock lock))
    (hAbort : ∀ lock abort, C.told (.lock lock) (.error abort) →
      goal (.error (Operation.abortError "AcquireNameLock" abort)))
    (h : op.run.Meets C goal) : (VolumeStore.locked name op).run.Meets C goal := by
  intro lock
  have hWork : Procedure.Meets C (fun result => ∀ _ _ : Unit, goal result)
      (do
        let result ← op.run
        Procedure.perform (.unlock lock)
        return result : Procedure (Except Error α)) := by
    apply bind
    apply h.mono
    intro result hGoal _ _ _
    exact hGoal
  refine ⟨hAsks lock, fun answer hTold => ?_⟩
  cases answer with
  | error abort => exact fun _ _ => hAbort lock abort hTold
  | ok held => exact bind hWork

end Procedure.Meets

/-- A contract that allows and promises anything is always met. -/
theorem Procedure.meets_freely (p : Procedure α) : p.Meets ⟨fun _ => True, fun _ _ => True⟩ fun _ => True := by
  induction p with
  | done a => trivial
  | act action next ih => exact ih
  | await wait next ih => exact ⟨trivial, fun answer _ => ih answer⟩

/-! Paths. -/

/-- A wait and how it ended. -/
structure Exchange where
  wait : Wait
  answer : Except Abort wait.Answer

/-- The ways from a procedure to what is left of it, each with its waits. -/
inductive Procedure.Path : Procedure α → List Exchange → Procedure α → Prop where
  | refl (p : Procedure α) : Path p [] p
  | act {action : Action} {next : action.Answer → Procedure α} {path : List Exchange} {q : Procedure α}
      (answer : action.Answer) (h : Path (next answer) path q) : Path (.act action next) path q
  | await {wait : Wait} {next : Except Abort wait.Answer → Procedure α} {path : List Exchange}
      {q : Procedure α} (answer : Except Abort wait.Answer) (h : Path (next answer) path q) :
      Path (.await wait next) (⟨wait, answer⟩ :: path) q

/-- Whether a path keeps what a contract promises. -/
def Contract.Kept (C : Contract) (path : List Exchange) : Prop :=
  ∀ x ∈ path, C.told x.wait x.answer

namespace Procedure.Path

variable {C : Contract} {p q r : Procedure α} {path path' : List Exchange}

theorem trans (h : p.Path path q) (h' : q.Path path' r) : p.Path (path ++ path') r := by
  induction h with
  | refl p => exact h'
  | act answer _ ih => exact .act answer (ih h')
  | await answer _ ih => exact .await answer (ih h')

/-- What is left of a procedure that meets its contract meets it too. -/
theorem meets {goal : α → Prop} (h : p.Path path q) (hMeets : p.Meets C goal) (hKept : C.Kept path) :
    q.Meets C goal := by
  induction h with
  | refl p => exact hMeets
  | act answer _ ih => exact ih (hMeets answer) hKept
  | await answer _ ih =>
      obtain ⟨hFirst, hRest⟩ := List.forall_mem_cons.1 hKept
      exact ih (hMeets.2 answer hFirst) hRest

/-- Where every wait can be answered there is a path to the end. -/
theorem exists_done (hTold : ∀ wait, ∃ answer, C.told wait answer) (p : Procedure α) :
    ∃ path a, p.Path path (.done a) ∧ C.Kept path := by
  induction p with
  | done a => exact ⟨[], a, .refl _, fun x hx => (List.not_mem_nil hx).elim⟩
  | act action next ih =>
      obtain ⟨answer⟩ : Nonempty action.Answer := by cases action <;> exact ⟨default⟩
      obtain ⟨path, a, hPath, hKept⟩ := ih answer
      exact ⟨path, a, .act answer hPath, hKept⟩
  | await wait next ih =>
      obtain ⟨answer, hAnswer⟩ := hTold wait
      obtain ⟨path, a, hPath, hKept⟩ := ih answer
      exact ⟨_, a, .await answer hPath, List.forall_mem_cons.2 ⟨hAnswer, hKept⟩⟩

end Procedure.Path

/-! Threads go along paths. -/

/-- What is still to do of a procedure. -/
def Progress.rest [Platform σ] : Progress σ α → Procedure α
  | .running p => p
  | .waiting s => .await s.wait s.next

theorem Thread.rest_of_result? [Platform σ] {t : Thread σ α} {a : α} (h : t.result? = some a) :
    t.progress.rest = .done a := by
  obtain ⟨ctx, (b | ⟨action, next⟩ | ⟨wait, next⟩) | suspended⟩ := t
  · exact congrArg Procedure.done (Option.some.inj h)
  · cases h
  · cases h
  · cases h

theorem Thread.Step.exists_path [Platform σ] {aborts : Prop} {number : Nat} {t t' : Thread σ α} {w w' : World σ}
    (h : t.Step aborts number w t' w') : ∃ path, t.progress.rest.Path path t'.progress.rest := by
  cases h with
  | act action next => exact ⟨[], .act _ (.refl _)⟩
  | refuse _ _ => exact ⟨_, .await _ (.refl _)⟩
  | enter _ => exact ⟨[], .refl _⟩
  | abandon _ _ => exact ⟨_, .await _ (.refl _)⟩
  | answer _ _ => exact ⟨_, .await _ (.refl _)⟩
  | linger _ _ => exact ⟨[], .refl _⟩

variable [Bench σ] {env : Surroundings σ} {w : World σ} {jobs : List (Context × Procedure α)} {s : System σ α}

/-- Whatever the platform and the other threads do, a thread goes along a path of its procedure. -/
theorem System.Runs.exists_path (h : System.Runs env (System.start w jobs) s) {number : Nat}
    {t : Thread σ α} (hThread : s.threads[number]? = some t) :
    ∃ job path, jobs[number]? = some job ∧ job.2.Path path t.progress.rest := by
  induction h generalizing t with
  | refl =>
      obtain ⟨job, hJob, rfl⟩ := Option.map_eq_some_iff.1 (List.getElem?_map ▸ hThread)
      exact ⟨job, [], hJob, .refl _⟩
  | tail _ hStep ih =>
      cases hStep with
      | clock => exact ih hThread
      | cancel => exact ih hThread
      | command => exact ih hThread
      | @thread number' t₁ t₂ w' hBefore hStep =>
          rcases getElem?_set_cases hThread with ⟨rfl, rfl⟩ | ⟨-, hThread⟩
          · obtain ⟨job, path, hJob, hPath⟩ := ih hBefore
            obtain ⟨path', hPath'⟩ := hStep.exists_path
            exact ⟨job, path ++ path', hJob, hPath.trans hPath'⟩
          · exact ih hThread

/-- The thread of a job is there at every moment. -/
theorem System.Runs.exists_thread_path (h : System.Runs env (System.start w jobs) s) {number : Nat}
    {job : Context × Procedure α} (hJob : jobs[number]? = some job) :
    ∃ t path, s.threads[number]? = some t ∧ job.2.Path path t.progress.rest := by
  have hNumber : number < s.threads.length := by
    rw [h.length_threads, System.start, List.length_map]
    exact (List.getElem?_eq_some_iff.1 hJob).1
  have hThread := List.getElem?_eq_getElem hNumber
  obtain ⟨job', path, hJob', hPath⟩ := h.exists_path hThread
  obtain rfl := Option.some.inj (hJob.symm.trans hJob')
  exact ⟨_, path, hThread, hPath⟩

/-- A result is the end of a path. -/
theorem System.Runs.exists_path_of_result (h : System.Runs env (System.start w jobs) s) {number : Nat}
    {job : Context × Procedure α} (hJob : jobs[number]? = some job) {a : α} (hResult : s.result? number = some a) :
    ∃ path, job.2.Path path (.done a) := by
  obtain ⟨t, path, hThread, hPath⟩ := h.exists_thread_path hJob
  rw [Thread.rest_of_result? ((System.result?_of_thread hThread).symm.trans hResult)] at hPath
  exact ⟨path, hPath⟩

end VolumeController

import VolumeController.Proofs.Interleaving.Schedule
/-! Runs in which time does not pass over a thread: the clock moves on only when the thread has ended or waits
under a context that lets it wait, and it does not move beyond the deadline. Nothing else is asked of the
surroundings, and in particular answers may stay out for any time. Main result: the schedule is timely for every
task that has begun. -/

namespace VolumeController

variable {σ α : Type}

/-! Moments. -/

namespace World

/-- Worlds of which the second may be later, with more tokens cancelled. -/
structure Later (w w' : World σ) : Prop where
  now : w.now ≤ w'.now
  cancelled : w.cancelled ⊆ w'.cancelled

theorem SameMoment.later {w w' : World σ} (h : w.SameMoment w') : w.Later w' :=
  ⟨Nat.le_of_eq h.now.symm, h.cancelled ▸ List.Subset.refl _⟩

theorem SameMoment.symm {w w' : World σ} (h : w.SameMoment w') : w'.SameMoment w :=
  ⟨h.now.symm, h.cancelled.symm⟩

/-- A context that has ended stays so. -/
theorem Later.isSome_abort? {w w' : World σ} (h : w.Later w') {ctx : Context} (hAbort : (w.abort? ctx).isSome) :
    (w'.abort? ctx).isSome := by
  have hNow : ctx.isExpired w.now → ctx.isExpired w'.now := by
    cases hDeadline : ctx.deadline with
    | none => simp [Context.isExpired, hDeadline]
    | some deadline =>
        simp only [Context.isExpired, hDeadline, Option.any_some, decide_eq_true_eq]
        exact fun hExpired => Nat.le_trans hExpired h.now
  have hCancelled : ctx.isCancelled w.cancelled → ctx.isCancelled w'.cancelled := by
    simp only [Context.isCancelled, List.any_eq_true, List.contains_iff_mem]
    rintro ⟨token, hToken, hMem⟩
    exact ⟨token, hToken, h.cancelled hMem⟩
  simp only [World.abort?, Context.abort?] at hAbort ⊢
  grind

theorem sameMoment_giveUp (w : World σ) (task : Nat) (wait : Wait) : w.SameMoment (w.giveUp task wait) := by
  cases wait <;> exact ⟨rfl, rfl⟩

theorem sameMoment_perform [Platform σ] (w : World σ) (action : Action) : w.SameMoment (w.perform action).2 := by
  cases action <;> exact ⟨rfl, rfl⟩

end World

/-! Steps of a thread. -/

namespace Thread.Step

variable [Platform σ] {aborts : Prop} {number : Nat} {t t' : Thread σ α} {w w' : World σ}

theorem sameMoment (h : t.Step aborts number w t' w') : w.SameMoment w' := by
  cases h with
  | act action next => exact w.sameMoment_perform action
  | refuse _ _ => exact .refl w
  | enter _ => exact w.sameMoment_openWait number _
  | abandon _ _ => exact w.sameMoment_giveUp number _
  | @answer ctx _ _ s answer _ hPoll =>
      have hMoment := w.sameMoment_poll number s.pending
      rwa [hPoll] at hMoment
  | @linger ctx _ _ s pending _ hPoll =>
      have hMoment := w.sameMoment_poll number s.pending
      rwa [hPoll] at hMoment

theorem ctx_eq (h : t.Step aborts number w t' w') : t'.ctx = t.ctx := by
  cases h <;> rfl

/-- A thread that has ended does not move. -/
theorem result?_eq_none (h : t.Step aborts number w t' w') : t.result? = none := by
  cases h <;> rfl

end Thread.Step

/-- Whether a thread lets the clock move on to a time. -/
inductive Thread.LetsPass [Platform σ] (now : Nat) : Thread σ α → World σ → Prop where
  | ended {ctx : Context} {a : α} {w : World σ} : LetsPass now ⟨ctx, .running (.done a)⟩ w
  | waiting {ctx : Context} {s : Suspended σ α} {w : World σ} (hAbort : w.abort? ctx = none)
      (hDeadline : ∀ deadline, ctx.deadline = some deadline → now ≤ deadline) :
      LetsPass now ⟨ctx, .waiting s⟩ w

namespace System

variable [Bench σ] {env : Surroundings σ} {number : Nat} {s s' s'' : System σ α} {t : Thread σ α} {ctx : Context}

theorem Step.later (h : Step env s s') : s.world.Later s'.world := by
  cases h with
  | thread _ hStep => exact hStep.sameMoment.later
  | clock now hNow => exact ⟨hNow, List.Subset.refl _⟩
  | cancel token => exact ⟨Nat.le_refl _, List.subset_cons_self _ _⟩
  | command c _ => exact ⟨Nat.le_refl _, List.Subset.refl _⟩

/-- What a step means for the thread of a number: it made the step, or it is as it was. -/
theorem Step.thread_cases (h : Step env s s') (hThread : s.threads[number]? = some t) :
    s'.threads[number]? = some t ∨
      ∃ t', s'.threads[number]? = some t' ∧ t.Step env.aborts number s.world t' s'.world := by
  cases h with
  | clock => exact .inl hThread
  | cancel => exact .inl hThread
  | command => exact .inl hThread
  | @thread number' t₁ t₂ w' hBefore hStep =>
      by_cases hSame : number' = number
      · subst hSame
        obtain rfl := Option.some.inj (hBefore.symm.trans hThread)
        exact .inr ⟨t₂, List.getElem?_set_self (List.getElem?_eq_some_iff.1 hBefore).1, hStep⟩
      · exact .inl ((List.getElem?_set_ne hSame).trans hThread)

/-- A step over which the thread of a number has its time. -/
structure TimelyStep (env : Surroundings σ) (number : Nat) (s s' : System σ α) : Prop where
  step : Step env s s'
  time : s'.world.now = s.world.now ∨
    ∃ t, s.threads[number]? = some t ∧ t.LetsPass s'.world.now s.world

/-- Any number of such steps. -/
abbrev RunsTimely (env : Surroundings σ) (number : Nat) : System σ α → System σ α → Prop :=
  Relation.ReflTransGen (TimelyStep env number)

/-- A step of the thread that was put in a place. -/
theorem TimelyStep.set {w w' : World σ} {threads : List (Thread σ α)} {t t' : Thread σ α}
    (hNumber : number < threads.length) (hStep : t.Step env.aborts number w t' w') :
    TimelyStep env number ⟨w, threads.set number t⟩ ⟨w', threads.set number t'⟩ :=
  ⟨.set hNumber hStep, .inl hStep.sameMoment.now⟩

theorem RunsTimely.later (h : RunsTimely env number s s') : s.world.Later s'.world := by
  induction h with
  | refl => exact ⟨Nat.le_refl _, List.Subset.refl _⟩
  | tail _ hStep ih =>
      have hLater := hStep.step.later
      exact ⟨Nat.le_trans ih.now hLater.now, List.Subset.trans ih.cancelled hLater.cancelled⟩

/-- A run that takes no time. -/
theorem Runs.timely (h : Runs env s s') (hNow : s'.world.now = s.world.now) : RunsTimely env number s s' := by
  have hLater : ∀ {s'}, Runs env s s' → s.world.now ≤ s'.world.now := by
    intro s' h
    induction h with
    | refl => exact Nat.le_refl _
    | tail _ hStep ih => exact Nat.le_trans ih hStep.later.now
  induction h with
  | refl => exact .refl
  | @tail before after hBefore hStep ih =>
      have hFirst := hLater hBefore
      have hSecond := hStep.later.now
      exact (ih (by omega)).tail ⟨hStep, .inl (by omega)⟩

end System

/-! The schedule. -/

/-- Unless a cancellation was due, nothing is cancelled. -/
theorem Lab.sameMoment_fireTimers (lab : Lab σ) (h : lab.fireTimers.1 = false) :
    lab.world.SameMoment lab.fireTimers.2.world := by
  simp only [fireTimers, Bool.not_eq_false', List.isEmpty_iff] at h ⊢
  exact ⟨rfl, by rw [h]; rfl⟩

section

variable [Platform σ]

theorem Procedure.sameMoment_advance (number : Nat) (ctx : Context) (p : Procedure α) (w : World σ) :
    w.SameMoment (p.advance number ctx w).2 := by
  induction p generalizing w with
  | done a => exact .refl w
  | act action next ih => exact (w.sameMoment_perform action).trans (ih _ _)
  | await wait next ih =>
      unfold Procedure.advance
      split
      · exact ih _ w
      · have hOpen := w.sameMoment_openWait number wait
        have hPoll := (w.openWait number wait).2.sameMoment_poll number (w.openWait number wait).1
        simp only
        split
        · rename_i answer w' hAnswer
          rw [hAnswer] at hPoll
          exact (hOpen.trans hPoll).trans (ih _ w')
        · rename_i pending w' hPending
          rw [hPending] at hPoll
          exact hOpen.trans hPoll

theorem Suspended.sameMoment_resume (number : Nat) (ctx : Context) (s : Suspended σ α) (w : World σ) :
    w.SameMoment (s.resume number ctx w).2.2 := by
  unfold Suspended.resume
  split
  · exact (w.sameMoment_giveUp number s.wait).trans (Procedure.sameMoment_advance number ctx _ _)
  · have hPoll := w.sameMoment_poll number s.pending
    split
    · rename_i answer w' hAnswer
      rw [hAnswer] at hPoll
      exact hPoll.trans (Procedure.sameMoment_advance number ctx _ w')
    · rename_i pending w' hPending
      rwa [hPending] at hPoll

namespace Task

/-- Whether a task has begun, or begins at a time. -/
def Due (now : Nat) : Task σ α → Prop
  | .scheduled due _ => due ≤ now
  | _ => True

/-- Whether a task has begun. -/
def Begun : Task σ α → Prop
  | .scheduled _ _ => False
  | _ => True

/-- Whether the context of a task, if it waits, lets it wait. -/
def Rests (w : World σ) : Task σ α → Prop
  | .suspended ctx _ => w.abort? ctx = none
  | _ => True

theorem Begun.due {task : Task σ α} (h : task.Begun) (now : Nat) : task.Due now := by
  cases task with
  | scheduled due start => exact h.elim
  | suspended ctx s => trivial
  | finished a => trivial

theorem begun_ofRun (ctx : Context) (run : α ⊕ Suspended σ α) : (ofRun ctx run).Begun := by
  cases run <;> trivial

theorem begun_step {task : Task σ α} {lab : Lab σ} (number : Nat) (h : task.Due lab.world.now) :
    (task.step number lab).2.1.Begun := by
  cases task with
  | scheduled due start =>
      have hDue : due ≤ lab.world.now := h
      rw [step, if_pos hDue]
      exact begun_ofRun _ _
  | suspended ctx s => exact begun_ofRun _ _
  | finished a => trivial

/-- A task that does not go on rests. -/
theorem rests_step {task : Task σ α} {lab : Lab σ} {number : Nat} (h : (task.step number lab).1 = false) :
    (task.step number lab).2.1.Rests lab.world := by
  cases task with
  | scheduled due start =>
      by_cases hDue : due ≤ lab.world.now
      · rw [step, if_pos hDue] at h
        cases h
      · rw [step, if_neg hDue]
        trivial
  | finished a => trivial
  | suspended ctx s =>
      simp only [step, Suspended.resume] at h ⊢
      cases hAbort : lab.world.abort? ctx with
      | some abort => simp [hAbort] at h
      | none =>
          simp only [hAbort] at h ⊢
          rcases hPoll : lab.world.poll number s.pending with ⟨pending | answer, w'⟩
          · exact hAbort
          · simp [hPoll] at h

theorem Rests.of_sameMoment {task : Task σ α} {w w' : World σ} (h : task.Rests w') (hMoment : w.SameMoment w') :
    task.Rests w := by
  cases task with
  | suspended ctx s => exact (hMoment.abort? ctx).symm.trans h
  | scheduled due start => trivial
  | finished a => trivial

end Task

end

section

variable [Bench σ] {env : Surroundings σ}

namespace Task.Tracks

variable {lab : Lab σ} {task : Task σ α} {t : Thread σ α} (number : Nat)

theorem contexts_step (h : task.Tracks env lab.contexts t) :
    (task.step number lab).2.2.contexts = lab.contexts := by
  cases h with
  | @scheduled due start job _ hStart =>
      simp only [Task.step]
      split
      · rw [hStart lab rfl]
      · rfl
  | suspended _ s => rfl
  | finished ctx a => rfl

theorem sameMoment_step (h : task.Tracks env lab.contexts t) :
    lab.world.SameMoment (task.step number lab).2.2.world := by
  cases h with
  | @scheduled due start job _ hStart =>
      simp only [Task.step]
      split
      · rw [hStart lab rfl]
        exact Procedure.sameMoment_advance number _ _ _
      · exact .refl _
  | suspended _ s => exact Suspended.sameMoment_resume number _ s _
  | finished ctx a => exact .refl _

/-- A thread that has begun lets the clock move on to the next time of its task. -/
theorem letsPass {contexts : List (String × Context)} {w : World σ} {now : Nat}
    (h : task.Tracks env contexts t) (hBegun : task.Begun) (hRests : task.Rests w)
    (hDues : ∀ due ∈ task.dues, w.now < due → now ≤ due) : t.LetsPass now w := by
  cases h with
  | scheduled => exact hBegun.elim
  | finished ctx a => exact .ended
  | @suspended ctx _ s =>
      refine .waiting hRests fun deadline hDeadline => ?_
      have hAhead : w.now < deadline := by
        by_contra hReached
        have hExpired : ctx.isExpired w.now := by
          simpa [Context.isExpired, hDeadline] using hReached
        simp only [Rests, World.abort?, Context.abort?, hExpired, if_true] at hRests
        split at hRests <;> cases hRests
      refine hDues deadline ?_ hAhead
      simp [Task.dues, hDeadline]

end Task.Tracks

/-- A round takes no time, begins every task that is due, and tells whether anything went on. -/
theorem Task.pass_timely (lab : Lab σ) (number : Nat) {tasks : List (Task σ α)} {threads : List (Thread σ α)}
    (h : List.Forall₂ (Task.Tracks env lab.contexts) tasks threads) :
    lab.world.SameMoment (Task.pass lab number tasks).2.2.world ∧
    List.Forall₂ (fun task task' => task.Due lab.world.now → task'.Begun) tasks
      (Task.pass lab number tasks).2.1 ∧
    ((Task.pass lab number tasks).1 = false → ∀ task ∈ (Task.pass lab number tasks).2.1, task.Rests lab.world) := by
  induction tasks generalizing lab number threads with
  | nil => exact ⟨.refl _, .nil, fun _ task hTask => (List.not_mem_nil hTask).elim⟩
  | cons task tasks ih =>
      cases h with
      | cons hTask hTasks =>
          have hMoment := hTask.sameMoment_step number
          rw [← hTask.contexts_step number] at hTasks
          obtain ⟨hRest, hBegun, hQuiet⟩ := ih _ (number + 1) hTasks
          rw [hMoment.now] at hBegun
          refine ⟨hMoment.trans hRest, .cons (begun_step number) hBegun, fun hMoved => ?_⟩
          obtain ⟨hFirst, hOthers⟩ := Bool.or_eq_false_iff.1 hMoved
          refine List.forall_mem_cons.2 ⟨rests_step hFirst, fun task' hTask' => ?_⟩
          exact (hQuiet hOthers task' hTask').of_sameMoment hMoment

/-- The next time is not beyond one at which a task may go on. -/
theorem Lab.nextTime?_le {lab : Lab σ} {tasks : List (Task σ α)} {now : Nat}
    (h : lab.nextTime? tasks = some now) {task : Task σ α} (hTask : task ∈ tasks) {due : Nat}
    (hDue : due ∈ task.dues) (hAhead : lab.world.now < due) : now ≤ due := by
  refine (List.min?_eq_some_iff.1 h).2 due (List.mem_filter.2 ⟨?_, by simpa using hAhead⟩)
  exact List.mem_append_left _ (List.mem_flatMap.2 ⟨task, hTask, hDue⟩)

/-- What a lab did with tasks is what a run did with their threads, and no time passed over a thread that had
begun. -/
theorem Lab.run_runsTimely (rounds : Nat) (tasks : List (Task σ α)) (lab : Lab σ) {threads : List (Thread σ α)}
    (h : List.Forall₂ (Task.Tracks env lab.contexts) tasks threads) :
    ∃ threads', List.Forall₂ (Task.Tracks env lab.contexts) (Lab.run rounds tasks lab).1 threads' ∧
      ∀ (number : Nat) (task : Task σ α), tasks[number]? = some task → task.Due lab.world.now →
        System.RunsTimely env number ⟨lab.world, threads⟩ ⟨(Lab.run rounds tasks lab).2.world, threads'⟩ := by
  induction rounds generalizing tasks lab threads with
  | zero => exact ⟨threads, h, fun _ _ _ _ => .refl⟩
  | succ rounds ih =>
      obtain ⟨hContexts, threads', hTasks, hPass⟩ := Task.pass_runs lab tasks [] h
      obtain ⟨hMoment, hBegun, hRests⟩ := Task.pass_timely lab 0 h
      simp only [Lab.run]
      rw [List.length_nil] at hContexts hTasks hPass
      generalize Task.pass lab 0 tasks = passed at *
      obtain ⟨moved, tasks', lab'⟩ := passed
      simp only [List.nil_append] at *
      have hNext : ∀ (number : Nat) (task : Task σ α), tasks[number]? = some task → task.Due lab.world.now →
          ∃ task', tasks'[number]? = some task' ∧ task'.Begun := by
        intro number task hTask hDue
        obtain ⟨hNumber, rfl⟩ := List.getElem?_eq_some_iff.1 hTask
        have hThere := hBegun.length_eq ▸ hNumber
        exact ⟨tasks'[number], List.getElem?_eq_getElem hThere, hBegun.get hNumber hThere hDue⟩
      have hFire : System.Runs env ⟨lab'.world, threads'⟩ ⟨lab'.fireTimers.2.world, threads'⟩ :=
        Lab.fireTimers_runs lab' threads'
      have hNow : lab'.fireTimers.2.world.now = lab.world.now := hMoment.now
      have hInstant (number : Nat) :
          System.RunsTimely env number ⟨lab.world, threads⟩ ⟨lab'.fireTimers.2.world, threads'⟩ :=
        System.Runs.timely (hPass.trans hFire) hNow
      have hSame : lab'.fireTimers.2.contexts = lab.contexts := hContexts
      have hQuiet := lab'.sameMoment_fireTimers
      generalize lab'.fireTimers = fired at *
      obtain ⟨fired, lab''⟩ := fired
      simp only at *
      split
      · exact ⟨threads', hTasks, fun number _ _ _ => System.Runs.timely hPass hMoment.now⟩
      split
      · obtain ⟨final, hFinal, hRest⟩ := ih tasks' lab'' (by rwa [hSame])
        refine ⟨final, by rwa [← hSame], fun number task hTask hDue => ?_⟩
        obtain ⟨task', hTask', hBegun'⟩ := hNext number task hTask hDue
        exact (hInstant number).trans (hRest number task' hTask' (hBegun'.due _))
      · rename_i hIdle
        obtain ⟨hMoved, hFired⟩ := Bool.or_eq_false_iff.1 (Bool.not_eq_true _ ▸ hIdle)
        split
        · exact ⟨threads', hTasks, fun number _ _ _ => hInstant number⟩
        · rename_i now hTime
          obtain ⟨final, hFinal, hRest⟩ := ih tasks' { lab'' with world := { lab''.world with now } }
            (by rwa [hSame])
          refine ⟨final, by rwa [← hSame], fun number task hTask hDue => ?_⟩
          obtain ⟨task', hTask', hBegun'⟩ := hNext number task hTask hDue
          have hStep : System.TimelyStep env number ⟨lab''.world, threads'⟩
              ⟨{ lab''.world with now }, threads'⟩ := by
            refine ⟨.clock now (Lab.now_le_of_nextTime? hTime), .inr ?_⟩
            obtain ⟨hNumber, rfl⟩ := List.getElem?_eq_some_iff.1 hTask'
            have hThread := hTasks.length_eq ▸ hNumber
            refine ⟨threads'[number], List.getElem?_eq_getElem hThread, ?_⟩
            have hStill := (hRests hMoved _ (List.getElem_mem hNumber)).of_sameMoment
              (hMoment.trans (hQuiet hFired)).symm
            exact (hTasks.get hNumber hThread).letsPass hBegun' hStill fun due hMem hAhead =>
              Lab.nextTime?_le hTime (List.getElem_mem hNumber) hMem hAhead
          exact ((hInstant number).tail hStep).trans (hRest number task' hTask' (hBegun'.due _))

end

end VolumeController

import Mathlib.Data.List.Forall2
import VolumeController.Simulation.Scenario
import VolumeController.Simulation.Interleaving
/-! The schedule is one of the interleavings: whatever a lab does with tasks is a run of the threads that
they carry out. What holds along every run therefore holds of every scenario. -/

namespace VolumeController

variable {σ α : Type}

namespace World

/-- Waits are opened and polled without the clock moving or anything being cancelled. -/
structure SameMoment (w w' : World σ) : Prop where
  now : w'.now = w.now
  cancelled : w'.cancelled = w.cancelled

theorem SameMoment.refl (w : World σ) : w.SameMoment w := ⟨rfl, rfl⟩

theorem SameMoment.trans {w w' w'' : World σ} (h : w.SameMoment w') (h' : w'.SameMoment w'') :
    w.SameMoment w'' :=
  ⟨h'.now.trans h.now, h'.cancelled.trans h.cancelled⟩

theorem SameMoment.abort? {w w' : World σ} (h : w.SameMoment w') (ctx : Context) :
    w'.abort? ctx = w.abort? ctx := by
  rw [World.abort?, World.abort?, h.now, h.cancelled]

variable [Platform σ]

/-! Polling changes the platform and the log, and opening a wait for listings also the trace of calls. -/

theorem exists_pollSlot_eq (w : World σ) (slot : Slot σ) :
    ∃ platform log, (w.pollSlot slot).2 = { w with platform, log } := by
  cases slot with
  | answered reply => exact ⟨_, _, rfl⟩
  | waiting dc started =>
      simp only [pollSlot]
      split <;> exact ⟨_, _, rfl⟩

theorem exists_pollSlots_eq (w : World σ) (slots : List (Slot σ)) :
    ∃ platform log, (w.pollSlots slots).2 = { w with platform, log } := by
  induction slots generalizing w with
  | nil => exact ⟨_, _, rfl⟩
  | cons slot slots ih =>
      obtain ⟨platform, log, hSlot⟩ := w.exists_pollSlot_eq slot
      obtain ⟨platform', log', hSlots⟩ := ih (w.pollSlot slot).2
      refine ⟨platform', log', hSlots.trans ?_⟩
      rw [hSlot]

theorem exists_poll_eq (w : World σ) (task : Nat) {wait : Wait} (pending : Pending σ wait) :
    ∃ platform log, (w.poll task pending).2 = { w with platform, log } := by
  cases pending with
  | call started =>
      rcases w.poll_call task started with h | h
      · rw [h]
        exact ⟨_, _, rfl⟩
      · rw [h]
        exact ⟨_, _, rfl⟩
  | listings slots =>
      have hSlots := w.exists_pollSlots_eq slots
      simp only [poll]
      split <;> exact hSlots
  | lock => exact ⟨_, _, rfl⟩
  | work due => exact ⟨_, _, rfl⟩

theorem exists_startSlots_eq (w : World σ) (dcs : List Datacenter) :
    ∃ platform log calls, (w.startSlots dcs).2 = { w with platform, log, calls } := by
  induction dcs generalizing w with
  | nil => exact ⟨_, _, _, rfl⟩
  | cons dc dcs ih =>
      let started := w.start (.listDisks dc)
      obtain ⟨platform, log, hPoll⟩ := started.2.exists_pollSlot_eq (.waiting dc started.1)
      obtain ⟨platform', log', calls, hRest⟩ := ih (started.2.pollSlot (.waiting dc started.1)).2
      refine ⟨platform', log', calls, hRest.trans ?_⟩
      rw [hPoll]
      rfl

theorem sameMoment_pollSlot (w : World σ) (slot : Slot σ) : w.SameMoment (w.pollSlot slot).2 := by
  obtain ⟨platform, log, h⟩ := w.exists_pollSlot_eq slot
  rw [h]
  exact ⟨rfl, rfl⟩

theorem sameMoment_startSlots (w : World σ) (dcs : List Datacenter) :
    w.SameMoment (w.startSlots dcs).2 := by
  obtain ⟨platform, log, calls, h⟩ := w.exists_startSlots_eq dcs
  rw [h]
  exact ⟨rfl, rfl⟩

theorem sameMoment_poll (w : World σ) (task : Nat) {wait : Wait} (pending : Pending σ wait) :
    w.SameMoment (w.poll task pending).2 := by
  obtain ⟨platform, log, h⟩ := w.exists_poll_eq task pending
  rw [h]
  exact ⟨rfl, rfl⟩

theorem sameMoment_openWait (w : World σ) (task : Nat) (wait : Wait) :
    w.SameMoment (w.openWait task wait).2 := by
  cases wait with
  | call c => exact ⟨rfl, rfl⟩
  | listings dcs => exact sameMoment_startSlots w dcs
  | lock lock => exact ⟨rfl, rfl⟩
  | work duration => exact .refl w

end World

theorem Context.abort?_background (cancelled : List Nat) (now : Nat) :
    Context.background.abort? cancelled now = none := by
  simp [abort?, isCancelled, isExpired, background]

/-- Surroundings that let a context do what it may do. -/
def Surroundings.Admits [Bench σ] (env : Surroundings σ) (ctx : Context) : Prop :=
  ∀ cancelled now abort, ctx.abort? cancelled now = some abort → env.aborts

theorem Surroundings.admits_background [Bench σ] (env : Surroundings σ) :
    env.Admits .background := by
  intro cancelled now abort h
  rw [Context.abort?_background] at h
  cases h

/-- The thread that a run of a procedure leaves. -/
def Thread.ofRun [Platform σ] (ctx : Context) : α ⊕ Suspended σ α → Thread σ α
  | .inl a => ⟨ctx, .running (.done a)⟩
  | .inr s => ⟨ctx, .waiting s⟩

section

variable [Bench σ] {env : Surroundings σ} {ctx : Context} {number : Nat}

/-- One step of the thread that was put in a place. -/
theorem System.Step.set {w w' : World σ} {threads : List (Thread σ α)} {t t' : Thread σ α}
    (hNumber : number < threads.length) (hStep : t.Step env.aborts number w t' w') :
    System.Step env ⟨w, threads.set number t⟩ ⟨w', threads.set number t'⟩ := by
  have hThread : (threads.set number t)[number]? = some t := List.getElem?_set_self hNumber
  have hSystem := System.Step.thread (s := ⟨w, threads.set number t⟩) hThread hStep
  rwa [List.set_set] at hSystem

/-- A thread that runs until it ends or has to wait. -/
theorem Procedure.advance_runs (hCtx : env.Admits ctx) {threads : List (Thread σ α)}
    (hNumber : number < threads.length) (p : Procedure α) (w : World σ) :
    System.Runs env ⟨w, threads.set number ⟨ctx, .running p⟩⟩
      ⟨(p.advance number ctx w).2, threads.set number (.ofRun ctx (p.advance number ctx w).1)⟩ := by
  induction p generalizing w with
  | done a => exact .refl
  | act action next ih => exact .head (.set hNumber (.act action next)) (ih _ _)
  | await wait next ih =>
      unfold Procedure.advance
      split
      · rename_i abort hAbort
        exact .head (.set hNumber (.refuse (hCtx _ _ _ hAbort) hAbort)) (ih _ w)
      · rename_i hAbort
        refine .head (.set hNumber (.enter hAbort)) ?_
        rw [← (World.sameMoment_openWait w number wait).abort?] at hAbort
        simp only
        split
        · rename_i answer w' hPoll
          exact .head (.set hNumber (.answer hAbort hPoll)) (ih _ w')
        · rename_i pending w' hPoll
          exact .single (.set hNumber (.linger hAbort hPoll))

/-- A thread that goes on if its wait can end. -/
theorem Suspended.resume_runs (hCtx : env.Admits ctx) {threads : List (Thread σ α)}
    (hNumber : number < threads.length) (s : Suspended σ α) (w : World σ) :
    System.Runs env ⟨w, threads.set number ⟨ctx, .waiting s⟩⟩
      ⟨(s.resume number ctx w).2.2, threads.set number (.ofRun ctx (s.resume number ctx w).2.1)⟩ := by
  unfold Suspended.resume
  split
  · rename_i abort hAbort
    exact .head (.set hNumber (.abandon (hCtx _ _ _ hAbort) hAbort))
      (Procedure.advance_runs hCtx hNumber _ _)
  · rename_i hAbort
    split
    · rename_i answer w' hPoll
      exact .head (.set hNumber (.answer hAbort hPoll)) (Procedure.advance_runs hCtx hNumber _ w')
    · rename_i pending w' hPoll
      exact .single (.set hNumber (.linger hAbort hPoll))

/-- A task and the thread that it carries out. The contexts of a lab stay as they are in the runs that
are looked at, so a task may take its own from there. -/
inductive Task.Tracks (env : Surroundings σ) (contexts : List (String × Context)) :
    Task σ α → Thread σ α → Prop where
  | scheduled {due : Nat} {start : Lab σ → (Context × Procedure α) × Lab σ}
      {job : Context × Procedure α} (hCtx : env.Admits job.1)
      (hStart : ∀ lab : Lab σ, lab.contexts = contexts → start lab = (job, lab)) :
      Tracks env contexts (.scheduled due start) (.start job)
  | suspended {ctx : Context} (hCtx : env.Admits ctx) (s : Suspended σ α) :
      Tracks env contexts (.suspended ctx s) ⟨ctx, .waiting s⟩
  | finished (ctx : Context) (a : α) : Tracks env contexts (.finished a) ⟨ctx, .running (.done a)⟩

theorem Task.Tracks.ofRun {contexts : List (String × Context)} (hCtx : env.Admits ctx)
    (run : α ⊕ Suspended σ α) : Task.Tracks env contexts (.ofRun ctx run) (.ofRun ctx run) := by
  cases run with
  | inl a => exact .finished ctx a
  | inr s => exact .suspended hCtx s

/-- The result of a task is that of its thread. -/
theorem Task.Tracks.result? {contexts : List (String × Context)} {task : Task σ α} {t : Thread σ α}
    (h : task.Tracks env contexts t) {a : α} (hResult : task.result? = some a) :
    t.result? = some a := by
  cases h with
  | scheduled => cases hResult
  | suspended => cases hResult
  | finished ctx b => exact hResult

/-- One step of a task: steps of its thread. -/
theorem Task.Tracks.step_runs {lab : Lab σ} {task : Task σ α} {t : Thread σ α}
    {threads : List (Thread σ α)} (h : task.Tracks env lab.contexts t)
    (hNumber : number < threads.length) :
    (task.step number lab).2.2.contexts = lab.contexts ∧
    ∃ t', Task.Tracks env lab.contexts (task.step number lab).2.1 t' ∧
      System.Runs env ⟨lab.world, threads.set number t⟩
        ⟨(task.step number lab).2.2.world, threads.set number t'⟩ := by
  cases h with
  | @scheduled due start job hCtx hStart =>
      simp only [Task.step]
      split
      · rw [hStart lab rfl]
        exact ⟨rfl, _, .ofRun hCtx _, Procedure.advance_runs hCtx hNumber job.2 lab.world⟩
      · exact ⟨rfl, _, .scheduled hCtx hStart, .refl⟩
  | suspended hCtx s =>
      exact ⟨rfl, _, .ofRun hCtx _, Suspended.resume_runs hCtx hNumber s lab.world⟩
  | finished ctx a => exact ⟨rfl, _, .finished ctx a, .refl⟩

/-- A round of tasks, from the thread of a number on: steps of their threads. -/
theorem Task.pass_runs (lab : Lab σ) (tasks : List (Task σ α)) (before : List (Thread σ α))
    {after : List (Thread σ α)} (h : List.Forall₂ (Task.Tracks env lab.contexts) tasks after) :
    (Task.pass lab before.length tasks).2.2.contexts = lab.contexts ∧
    ∃ after', List.Forall₂ (Task.Tracks env lab.contexts)
        (Task.pass lab before.length tasks).2.1 after' ∧
      System.Runs env ⟨lab.world, before ++ after⟩
        ⟨(Task.pass lab before.length tasks).2.2.world, before ++ after'⟩ := by
  induction tasks generalizing lab before after with
  | nil =>
      cases h
      exact ⟨rfl, [], .nil, .refl⟩
  | cons task tasks ih =>
      cases h with
      | @cons _ t _ after hTask hTasks =>
          have hNumber : before.length < (before ++ t :: after).length := by simp
          have hSet : ∀ t', (before ++ t :: after).set before.length t' = before ++ t' :: after := by
            simp
          obtain ⟨hContexts, t', hTask', hRuns⟩ := hTask.step_runs hNumber
          rw [hSet, hSet] at hRuns
          rw [← hContexts] at hTasks
          obtain ⟨hContexts', after', hTasks', hRest⟩ := ih _ (before ++ [t']) hTasks
          rw [hContexts] at hContexts' hTasks'
          rw [List.append_assoc, List.append_assoc, List.length_append] at *
          exact ⟨hContexts', t' :: after', .cons hTask' hTasks', hRuns.trans hRest⟩

theorem System.cancel_runs (tokens : List Nat) (w : World σ) (threads : List (Thread σ α)) :
    System.Runs env ⟨w, threads⟩ ⟨{ w with cancelled := tokens ++ w.cancelled }, threads⟩ := by
  induction tokens with
  | nil => exact .refl
  | cons token tokens ih => exact ih.tail (.cancel token)

theorem Lab.fireTimers_runs (lab : Lab σ) (threads : List (Thread σ α)) :
    System.Runs env ⟨lab.world, threads⟩ ⟨lab.fireTimers.2.world, threads⟩ :=
  System.cancel_runs _ lab.world threads

/-- The next time is not in the past. -/
theorem Lab.now_le_of_nextTime? {lab : Lab σ} {tasks : List (Task σ α)} {now : Nat}
    (h : lab.nextTime? tasks = some now) : lab.world.now ≤ now := by
  have hMem := List.min?_mem h
  exact Nat.le_of_lt (by simpa using (List.mem_filter.1 hMem).2)

/-- What a lab did with tasks is what a run did with their threads. -/
theorem Lab.run_runs (rounds : Nat) (tasks : List (Task σ α)) (lab : Lab σ)
    {threads : List (Thread σ α)}
    (h : List.Forall₂ (Task.Tracks env lab.contexts) tasks threads) :
    ∃ threads', List.Forall₂ (Task.Tracks env lab.contexts) (Lab.run rounds tasks lab).1 threads' ∧
      System.Runs env ⟨lab.world, threads⟩ ⟨(Lab.run rounds tasks lab).2.world, threads'⟩ := by
  induction rounds generalizing tasks lab threads with
  | zero => exact ⟨threads, h, .refl⟩
  | succ rounds ih =>
      obtain ⟨hContexts, threads', hTasks, hPass⟩ := Task.pass_runs lab tasks [] h
      simp only [Lab.run]
      rw [List.length_nil] at hContexts hTasks hPass
      generalize Task.pass lab 0 tasks = passed at *
      obtain ⟨moved, tasks', lab'⟩ := passed
      simp only at *
      split
      · exact ⟨threads', hTasks, hPass⟩
      · have hFire : System.Runs env ⟨lab'.world, threads'⟩ ⟨lab'.fireTimers.2.world, threads'⟩ :=
          Lab.fireTimers_runs lab' threads'
        have hSame : lab'.fireTimers.2.contexts = lab.contexts := hContexts
        generalize lab'.fireTimers = fired at *
        obtain ⟨some, lab''⟩ := fired
        simp only at *
        split
        · obtain ⟨final, hFinal, hRest⟩ := ih tasks' lab'' (by rwa [hSame])
          exact ⟨final, by rwa [← hSame], (hPass.trans hFire).trans hRest⟩
        · split
          · exact ⟨threads', hTasks, hPass.trans hFire⟩
          · rename_i now hNow
            have hClock : System.Step env ⟨lab''.world, threads'⟩
                ⟨{ lab''.world with now }, threads'⟩ :=
              .clock now (Lab.now_le_of_nextTime? hNow)
            obtain ⟨final, hFinal, hRest⟩ := ih tasks'
              { lab'' with world := { lab''.world with now } } (by rwa [hSame])
            exact ⟨final, by rwa [← hSame], ((hPass.trans hFire).tail hClock).trans hRest⟩

/-- Procedures that begin at once, side by side. -/
def Lab.start (w : World σ) (jobs : List (Context × Procedure α)) :
    List (Task σ α) × Lab σ :=
  (jobs.map fun job => .scheduled 0 fun lab => (job, lab), { world := w })

/-- The results of a lab are results of a run. -/
theorem Lab.exists_runs (rounds : Nat) (w : World σ) (jobs : List (Context × Procedure α))
    (hAdmits : ∀ job ∈ jobs, env.Admits job.1) :
    ∃ s, System.Runs env (System.start w jobs) s ∧
      s.world = (Lab.run rounds (Lab.start w jobs).1 (Lab.start w jobs).2).2.world ∧
      ∀ (number : Nat) (a : α),
        (Lab.run rounds (Lab.start w jobs).1 (Lab.start w jobs).2).1[number]?.bind Task.result? =
          some a → s.result? number = some a := by
  have hTracks : List.Forall₂ (Task.Tracks env []) (Lab.start w jobs).1 (System.start w jobs).threads := by
    simp only [Lab.start, System.start, List.forall₂_map_left_iff, List.forall₂_map_right_iff,
      List.forall₂_same]
    exact fun job hJob => .scheduled (hAdmits job hJob) fun lab _ => rfl
  obtain ⟨threads, hTasks, hRuns⟩ := Lab.run_runs rounds _ (Lab.start w jobs).2 hTracks
  refine ⟨_, hRuns, rfl, fun number a hResult => ?_⟩
  obtain ⟨task, hTask, hResult⟩ := Option.bind_eq_some_iff.1 hResult
  obtain ⟨hNumber, rfl⟩ := List.getElem?_eq_some_iff.1 hTask
  have hThreadNumber := hTasks.length_eq ▸ hNumber
  refine Option.bind_eq_some_iff.2 ⟨threads[number], List.getElem?_eq_getElem hThreadNumber, ?_⟩
  exact (hTasks.get hNumber hThreadNumber).result? hResult

end

end VolumeController

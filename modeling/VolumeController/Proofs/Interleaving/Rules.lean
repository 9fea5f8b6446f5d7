import VolumeController.Simulation.Interleaving
/-! Rules for threads side by side. A proof gives every thread a stage and states an invariant over the
world and all stages. `Follows` says, by recursion on a procedure, that whatever the procedure does next
keeps the invariant once the thread has moved to a further stage. Only steps of the thread itself are
looked at: what the others do is seen through the invariant. Main result: if every thread follows, the
invariant holds at every moment of every interleaving. -/

namespace VolumeController

variable {σ Γ α β : Type}

/-- The invariant of a proof, and whether the contexts of its threads may end waits. -/
structure Rules (σ Γ : Type) where
  invariant : World σ → List Γ → Prop
  aborts : Prop

namespace Rules

section

variable (R : Rules σ Γ) (number : Nat)

/-- A change of the world that a thread may make at a stage: some next stage with the wanted property
restores the invariant. -/
def Leads (stage : Γ) (w w' : World σ) (after : Γ → Prop) : Prop :=
  ∀ stages, R.invariant w stages → stages[number]? = some stage →
    ∃ next, R.invariant w' (stages.set number next) ∧ after next

variable [Platform σ]

/-- The ways that a wait may go once it is open. `holds` relates the stage to the opened wait for as long
as it lasts. -/
def Awaits (wait : Wait) (next : Except Abort wait.Answer → Γ → Prop)
    (holds : Γ → World.Pending σ wait → Prop) : Prop :=
  ∀ stage pending, holds stage pending →
    (R.aborts → ∀ abort w,
      R.Leads number stage w (w.giveUp number wait) (next (.error abort))) ∧
    (∀ w answer w', w.poll number pending = (.inr answer, w') →
      R.Leads number stage w w' (next (.ok answer))) ∧
    ∀ w pending' w', w.poll number pending = (.inl pending', w') →
      R.Leads number stage w w' fun stage => holds stage pending'

/-- From a stage a procedure keeps the invariant with everything it does, and ends at a stage that suits
its result. -/
def Follows (goal : α → Γ → Prop) : Procedure α → Γ → Prop
  | .done a, stage => goal a stage
  | .act action next, stage =>
    ∀ w : World σ, R.Leads number stage w (w.perform action).2
      fun stage => Follows goal (next (w.perform action).1) stage
  | .await wait next, stage =>
    (R.aborts → ∀ abort w, R.Leads number stage w w fun stage => Follows goal (next (.error abort)) stage) ∧
    ∃ holds : Γ → World.Pending σ wait → Prop,
      (∀ w : World σ, R.Leads number stage w (w.openWait number wait).2
        fun stage => holds stage (w.openWait number wait).1) ∧
      R.Awaits number wait (fun answer stage => Follows goal (next answer) stage) holds

end

variable {R : Rules σ Γ} {number : Nat}

theorem Leads.mono {stage : Γ} {w w' : World σ} {after after' : Γ → Prop}
    (h : R.Leads number stage w w' after) (hAfter : ∀ g, after g → after' g) :
    R.Leads number stage w w' after' := by
  intro stages hInvariant hStage
  obtain ⟨next, hNext, hGoal⟩ := h stages hInvariant hStage
  exact ⟨next, hNext, hAfter next hGoal⟩

/-- A thread that stays at its stage need only restore the invariant. -/
theorem Leads.stay {stage : Γ} {w w' : World σ} {after : Γ → Prop} (hAfter : after stage)
    (h : ∀ stages, R.invariant w stages → stages[number]? = some stage → R.invariant w' stages) :
    R.Leads number stage w w' after := by
  intro stages hInvariant hStage
  refine ⟨stage, ?_, hAfter⟩
  rw [set_of_getElem? hStage]
  exact h stages hInvariant hStage

variable [Platform σ]

theorem Awaits.mono {wait : Wait} {next next' : Except Abort wait.Answer → Γ → Prop}
    {holds : Γ → World.Pending σ wait → Prop} (h : R.Awaits number wait next holds)
    (hNext : ∀ answer g, next answer g → next' answer g) : R.Awaits number wait next' holds := by
  intro stage pending hHolds
  obtain ⟨hAbort, hAnswer, hLinger⟩ := h stage pending hHolds
  refine ⟨fun hAborts abort w => (hAbort hAborts abort w).mono (hNext _), ?_, hLinger⟩
  intro w answer w' hPoll
  exact (hAnswer w answer w' hPoll).mono (hNext _)

namespace Follows

theorem mono {p : Procedure α} {stage : Γ} {goal goal' : α → Γ → Prop}
    (h : R.Follows number goal p stage) (hGoal : ∀ a g, goal a g → goal' a g) :
    R.Follows number goal' p stage := by
  induction p generalizing stage with
  | done a => exact hGoal a stage h
  | act action next ih => exact fun w => (h w).mono fun g hg => ih _ hg
  | await wait next ih =>
      obtain ⟨hRefuse, holds, hEnter, hAwaits⟩ := h
      refine ⟨fun hAborts abort w => (hRefuse hAborts abort w).mono fun g hg => ih _ hg,
        holds, hEnter, hAwaits.mono fun answer g hg => ih _ hg⟩

/-- A second procedure goes on from whatever stage the first one ends at. -/
theorem bind {p : Procedure α} {f : α → Procedure β} {stage : Γ} {goal : β → Γ → Prop}
    (h : R.Follows number (fun a g => R.Follows number goal (f a) g) p stage) :
    R.Follows number goal (p >>= f) stage := by
  induction p generalizing stage with
  | done a => exact h
  | act action next ih => exact fun w => (h w).mono fun g hg => ih _ hg
  | await wait next ih =>
      obtain ⟨hRefuse, holds, hEnter, hAwaits⟩ := h
      refine ⟨fun hAborts abort w => (hRefuse hAborts abort w).mono fun g hg => ih _ hg,
        holds, hEnter, hAwaits.mono fun answer g hg => ih _ hg⟩

/-- The same for operations: an error of the first one is the result of both. -/
theorem bindOperation {op : Operation α} {f : α → Operation β} {stage : Γ}
    {goal : Except Error β → Γ → Prop}
    (h : R.Follows number
      (fun
        | .ok a, g => R.Follows number goal (f a).run g
        | .error e, g => goal (.error e) g) op.run stage) :
    R.Follows number goal (op >>= f).run stage := by
  refine bind (h.mono ?_)
  rintro (e | a) g hg
  · exact hg
  · exact hg

end Follows

end Rules

/-- A thread that keeps the invariant from its stage on, be it in the middle of a wait. -/
def Thread.Follows [Platform σ] (R : Rules σ Γ) (number : Nat) (goal : α → Γ → Prop)
    (t : Thread σ α) (stage : Γ) : Prop :=
  match t.progress with
  | .running p => R.Follows number goal p stage
  | .waiting s => ∃ holds : Γ → World.Pending σ s.wait → Prop, holds stage s.pending ∧
      R.Awaits number s.wait (fun answer g => R.Follows number goal (s.next answer) g) holds

theorem Thread.Follows.step [Platform σ] {R : Rules σ Γ} {number : Nat} {goal : α → Γ → Prop}
    {aborts : Prop} {t t' : Thread σ α} {w w' : World σ} {stage : Γ}
    (h : t.Follows R number goal stage) (hAborts : aborts → R.aborts)
    (hStep : t.Step aborts number w t' w') :
    R.Leads number stage w w' fun stage => t'.Follows R number goal stage := by
  cases hStep with
  | act action next => exact h w
  | refuse hMay _ => exact h.1 (hAborts hMay) _ w
  | enter _ =>
      obtain ⟨_, holds, hEnter, hAwaits⟩ := h
      exact (hEnter w).mono fun g hg => ⟨holds, hg, hAwaits⟩
  | abandon hMay _ =>
      obtain ⟨holds, hHolds, hAwaits⟩ := h
      exact (hAwaits stage _ hHolds).1 (hAborts hMay) _ w
  | answer _ hPoll =>
      obtain ⟨holds, hHolds, hAwaits⟩ := h
      exact (hAwaits stage _ hHolds).2.1 w _ w' hPoll
  | linger _ hPoll =>
      obtain ⟨holds, hHolds, hAwaits⟩ := h
      exact ((hAwaits stage _ hHolds).2.2 w _ w' hPoll).mono fun g hg => ⟨holds, hg, hAwaits⟩

/-- Surroundings in which more may happen have all the runs of these. -/
theorem System.Runs.mono [Bench σ] {env env' : Surroundings σ} {s s' : System σ α}
    (hAborts : env.aborts → env'.aborts) (hCommands : ∀ c, env.commands c → env'.commands c)
    (h : System.Runs env s s') : System.Runs env' s s' := by
  refine Relation.ReflTransGen.mono (fun s s' hStep => ?_) _ _ h
  cases hStep with
  | clock now hNow => exact .clock now hNow
  | cancel token => exact .cancel token
  | command c hCommand => exact .command c (hCommands c hCommand)
  | thread hThread hStep =>
      refine .thread hThread ?_
      cases hStep with
      | act action next => exact .act action next
      | refuse hMay hAbort => exact .refuse (hAborts hMay) hAbort
      | enter hAbort => exact .enter hAbort
      | abandon hMay hAbort => exact .abandon (hAborts hMay) hAbort
      | answer hAbort hPoll => exact .answer hAbort hPoll
      | linger hAbort hPoll => exact .linger hAbort hPoll

/-- Threads neither come nor go. -/
theorem System.Runs.length_threads [Bench σ] {env : Surroundings σ} {s s' : System σ α}
    (h : System.Runs env s s') : s'.threads.length = s.threads.length := by
  induction h with
  | refl => rfl
  | tail _ hStep ih =>
      cases hStep with
      | thread => simpa using ih
      | _ => exact ih

theorem System.lt_of_result? [Platform σ] {s : System σ α} {number : Nat} {a : α}
    (h : s.result? number = some a) : number < s.threads.length := by
  obtain ⟨t, hThread, -⟩ := Option.bind_eq_some_iff.1 h
  exact (List.getElem?_eq_some_iff.1 hThread).1

theorem System.result?_of_thread [Platform σ] {s : System σ α} {number : Nat} {t : Thread σ α}
    (h : s.threads[number]? = some t) : s.result? number = t.result? := by
  rw [result?, h, Option.bind_some]

/-- The invariant outlasts everything that the surroundings may do. -/
structure Rules.Covers [Bench σ] (R : Rules σ Γ) (env : Surroundings σ) : Prop where
  aborts : env.aborts → R.aborts
  clock : ∀ (w : World σ) (stages : List Γ) (now : Nat), w.now ≤ now → R.invariant w stages →
    R.invariant { w with now } stages
  cancel : ∀ (w : World σ) (stages : List Γ) (token : Nat), R.invariant w stages →
    R.invariant { w with cancelled := token :: w.cancelled } stages
  command : ∀ (w : World σ) (stages : List Γ) (c : Bench.Command σ), env.commands c →
    R.invariant w stages →
    R.invariant { w with platform := (Bench.obey c w.platform).2 } stages

namespace System

/-- The invariant holds now, and every thread keeps it from its stage on. -/
structure Follows [Platform σ] (R : Rules σ Γ) (goal : Nat → α → Γ → Prop) (s : System σ α)
    (stages : List Γ) : Prop where
  invariant : R.invariant s.world stages
  length : stages.length = s.threads.length
  thread : ∀ number (t : Thread σ α) stage, s.threads[number]? = some t → stages[number]? = some stage →
    t.Follows R number (goal number) stage

/-- Threads that have not begun follow if their procedures do from the stages given to them. -/
theorem Follows.start [Platform σ] {R : Rules σ Γ} {goal : Nat → α → Γ → Prop} {w : World σ}
    {jobs : List (Context × Procedure α)} {stages : List Γ} (hInvariant : R.invariant w stages)
    (hLength : stages.length = jobs.length)
    (h : ∀ number job stage, jobs[number]? = some job → stages[number]? = some stage →
      R.Follows number (goal number) job.2 stage) :
    (System.start w jobs).Follows R goal stages := by
  refine ⟨hInvariant, by simpa [System.start] using hLength, ?_⟩
  intro number t stage hThread hStage
  simp only [System.start, List.getElem?_map, Option.map_eq_some_iff] at hThread
  obtain ⟨job, hJob, rfl⟩ := hThread
  exact h number job stage hJob hStage

/-- Threads that all begin at one stage. -/
theorem Follows.startTogether [Platform σ] {R : Rules σ Γ} {goal : Nat → α → Γ → Prop} {w : World σ}
    {jobs : List (Context × Procedure α)} {stage : Γ}
    (hInvariant : R.invariant w (List.replicate jobs.length stage))
    (h : ∀ number job, jobs[number]? = some job → R.Follows number (goal number) job.2 stage) :
    (System.start w jobs).Follows R goal (List.replicate jobs.length stage) := by
  refine .start hInvariant (by simp) fun number job stage' hJob hStage => ?_
  obtain rfl := List.eq_of_mem_replicate (List.mem_of_getElem? hStage)
  exact h number job hJob

/-- The stage of a thread that has ended suits its result. -/
theorem Follows.goal_of_result [Platform σ] {R : Rules σ Γ} {goal : Nat → α → Γ → Prop}
    {s : System σ α} {stages : List Γ} (h : s.Follows R goal stages) {number : Nat} {a : α}
    (hResult : s.result? number = some a) :
    ∃ stage, stages[number]? = some stage ∧ goal number a stage := by
  obtain ⟨⟨ctx, progress⟩, hThread, hEnd⟩ := Option.bind_eq_some_iff.1 hResult
  have hNumber : number < stages.length := by
    rw [h.length]
    exact (List.getElem?_eq_some_iff.1 hThread).1
  have hStage := List.getElem?_eq_getElem hNumber
  have hFollows := h.thread number _ _ hThread hStage
  refine ⟨_, hStage, ?_⟩
  cases progress with
  | waiting s => simp [Thread.result?] at hEnd
  | running p =>
      cases p with
      | done b =>
          obtain rfl : b = a := by simpa [Thread.result?] using hEnd
          exact hFollows
      | act action next => simp [Thread.result?] at hEnd
      | await wait next => simp [Thread.result?] at hEnd

variable [Bench σ] {R : Rules σ Γ} {env : Surroundings σ}

/-- One step, of whichever thread or from outside, leaves threads that follow from their stages. -/
theorem Follows.step {goal : Nat → α → Γ → Prop} {s s' : System σ α} {stages : List Γ}
    (hCovers : R.Covers env) (h : s.Follows R goal stages) (hStep : Step env s s') :
    ∃ stages', s'.Follows R goal stages' := by
  cases hStep with
  | clock now hNow => exact ⟨stages, hCovers.clock _ _ now hNow h.invariant, h.length, h.thread⟩
  | cancel token => exact ⟨stages, hCovers.cancel _ _ token h.invariant, h.length, h.thread⟩
  | command c hCommand =>
      exact ⟨stages, hCovers.command _ _ c hCommand h.invariant, h.length, h.thread⟩
  | @thread number t t' w' hThread hStep =>
      have hNumber : number < stages.length := by
        rw [h.length]
        exact (List.getElem?_eq_some_iff.1 hThread).1
      have hStage := List.getElem?_eq_getElem hNumber
      have hLeads := (h.thread number t _ hThread hStage).step hCovers.aborts hStep
      obtain ⟨next, hInvariant, hNext⟩ := hLeads stages h.invariant hStage
      refine ⟨stages.set number next, hInvariant, by simpa using h.length, ?_⟩
      intro other t₁ stage hThread₁ hStage₁
      rcases getElem?_set_cases hThread₁ with ⟨rfl, rfl⟩ | ⟨hOther, hThread₁⟩
      · rw [List.getElem?_set_self hNumber] at hStage₁
        obtain rfl := Option.some.inj hStage₁
        exact hNext
      · rw [List.getElem?_set_ne hOther] at hStage₁
        exact h.thread other t₁ stage hThread₁ hStage₁

/-- Along every interleaving the invariant holds and the threads follow. -/
theorem Follows.runs {goal : Nat → α → Γ → Prop} {s s' : System σ α} {stages : List Γ}
    (hCovers : R.Covers env) (h : s.Follows R goal stages) (hRuns : Runs env s s') :
    ∃ stages', s'.Follows R goal stages' := by
  induction hRuns with
  | refl => exact ⟨stages, h⟩
  | tail _ hStep ih =>
      obtain ⟨stages', h'⟩ := ih
      exact h'.step hCovers hStep

end System

end VolumeController

import VolumeController.Proofs.Aborts
import VolumeController.Proofs.Contracts
import VolumeController.Proofs.Interleaving.Timely
/-! Threads whose context ends, in runs in which time does not pass over them. Main result: an aborted request
begins no call, ends before any more time passes, and tells at which operation it was. -/

namespace VolumeController

variable {σ α β : Type}

namespace Procedure

/-- What a procedure waits for before all else. -/
def wait? : Procedure α → Option Wait
  | .await wait _ => some wait
  | _ => none

theorem Heeds.map {p : Procedure α} {aborted : Wait → Abort → α} (f : α → β) (h : p.Heeds aborted) :
    (f <$> p).Heeds fun wait abort => f (aborted wait abort) := by
  rw [← bind_pure_comp]
  exact h.bind (fun _ _ => rfl) fun _ => trivial

end Procedure

/-! Steps of a thread. -/

namespace Thread.Step

variable [Platform σ] {aborts : Prop} {number : Nat} {t t' : Thread σ α} {w w' : World σ}

theorem heeds {aborted : Wait → Abort → α} (h : t.Step aborts number w t' w')
    (hHeeds : t.progress.rest.Heeds aborted) : t'.progress.rest.Heeds aborted := by
  cases h with
  | act action next => exact hHeeds _
  | refuse _ _ => exact (hHeeds.1 _).heeds aborted
  | enter _ => exact hHeeds
  | abandon _ _ => exact (hHeeds.1 _).heeds aborted
  | answer _ _ => exact hHeeds.2 _
  | linger _ _ => exact hHeeds

/-- An aborted thread leaves the platform alone. -/
theorem quiet (h : t.Step aborts number w t' w') (hAborted : (w.abort? t.ctx).isSome) :
    w'.calls = w.calls ∧ w'.platform = w.platform := by
  cases h with
  | act action next => cases action <;> exact ⟨rfl, rfl⟩
  | refuse _ _ => exact ⟨rfl, rfl⟩
  | @abandon ctx _ s abort _ _ => cases s.wait <;> exact ⟨rfl, rfl⟩
  | enter hAbort => simp [hAbort] at hAborted
  | answer hAbort _ => simp [hAbort] at hAborted
  | linger hAbort _ => simp [hAbort] at hAborted

/-- An aborted thread that is at a wait does not stay there. -/
theorem quits {aborted : Wait → Abort → α} {wait : Wait} (h : t.Step aborts number w t' w')
    (hAborted : (w.abort? t.ctx).isSome) (hWait : t.progress.rest.wait? = some wait)
    (hHeeds : t.progress.rest.Heeds aborted) :
    ∃ abort p, w.abort? t.ctx = some abort ∧ t'.progress = .running p ∧ p.Quits (aborted wait abort) := by
  cases h with
  | act action next => cases hWait
  | refuse _ hAbort =>
      cases hWait
      exact ⟨_, _, hAbort, rfl, hHeeds.1 _⟩
  | abandon _ hAbort =>
      cases hWait
      exact ⟨_, _, hAbort, rfl, hHeeds.1 _⟩
  | enter hAbort => simp [hAbort] at hAborted
  | answer hAbort _ => simp [hAbort] at hAborted
  | linger hAbort _ => simp [hAbort] at hAborted

/-- A thread that quits goes on quitting. -/
theorem of_quits {result : α} {p : Procedure α} (h : t.Step aborts number w t' w')
    (hProgress : t.progress = .running p) (hQuits : p.Quits result) :
    ∃ q, t'.progress = .running q ∧ q.Quits result := by
  cases h with
  | act action next =>
      cases hProgress
      exact ⟨_, rfl, hQuits _⟩
  | refuse _ _ =>
      cases hProgress
      exact hQuits.elim
  | enter _ =>
      cases hProgress
      exact hQuits.elim
  | abandon _ _ => cases hProgress
  | answer _ _ => cases hProgress
  | linger _ _ => cases hProgress

end Thread.Step

namespace System

variable [Bench σ] {env : Surroundings σ} {number : Nat} {s s' s'' : System σ α} {t : Thread σ α} {ctx : Context}

/-- A thread under its context, which heeds aborts from where it is. -/
structure HasHeedful (s : System σ α) (number : Nat) (ctx : Context) (aborted : Wait → Abort → α)
    (t : Thread σ α) : Prop where
  thread : s.threads[number]? = some t
  ctx : t.ctx = ctx
  heeds : t.progress.rest.Heeds aborted

variable {aborted : Wait → Abort → α}

theorem HasHeedful.step (h : s.HasHeedful number ctx aborted t) (hStep : Step env s s') :
    ∃ t', s'.HasHeedful number ctx aborted t' := by
  rcases hStep.thread_cases h.thread with hSame | ⟨t', hThread, hOwn⟩
  · exact ⟨t, hSame, h.ctx, h.heeds⟩
  · exact ⟨t', hThread, hOwn.ctx_eq.trans h.ctx, hOwn.heeds h.heeds⟩

theorem HasHeedful.runs (h : s.HasHeedful number ctx aborted t) (hRuns : RunsTimely env number s s') :
    ∃ t', s'.HasHeedful number ctx aborted t' := by
  induction hRuns with
  | refl => exact ⟨t, h⟩
  | tail _ hStep ih =>
      obtain ⟨t', hThread⟩ := ih
      exact hThread.step hStep.step

/-- Whoever has not ended now had not ended before. -/
theorem Step.result?_eq_none (h : Step env s s') (hThread : s.threads[number]? = some t)
    (hUnfinished : s'.result? number = none) : t.result? = none := by
  rcases h.thread_cases hThread with hSame | ⟨t', -, hOwn⟩
  · exact (result?_of_thread hSame).symm.trans hUnfinished
  · exact hOwn.result?_eq_none

/-! Runs of an aborted thread. -/

/-- It can end by itself and at once. -/
theorem exists_done_of_running {threads : List (Thread σ α)} (hAborts : env.aborts)
    (hNumber : number < threads.length) (p : Procedure α) {w : World σ} (hAborted : (w.abort? ctx).isSome) :
    ∃ w' a, RunsTimely env number ⟨w, threads.set number ⟨ctx, .running p⟩⟩
        ⟨w', threads.set number ⟨ctx, .running (.done a)⟩⟩ ∧ w.SameMoment w' := by
  induction p generalizing w with
  | done a => exact ⟨w, a, .refl, .refl w⟩
  | act action next ih =>
      have hMoment := w.sameMoment_perform action
      obtain ⟨w', a, hRuns, hSame⟩ := ih (w.perform action).1 (hMoment.later.isSome_abort? hAborted)
      exact ⟨w', a, .head (.set hNumber (.act action next)) hRuns, hMoment.trans hSame⟩
  | await wait next ih =>
      obtain ⟨abort, hAbort⟩ := Option.isSome_iff_exists.1 hAborted
      obtain ⟨w', a, hRuns, hSame⟩ := ih (.error abort) hAborted
      exact ⟨w', a, .head (.set hNumber (.refuse hAborts hAbort)) hRuns, hSame⟩

/-- The same for a thread that may be at a wait. -/
theorem exists_done_of_aborted {threads : List (Thread σ α)} (hAborts : env.aborts)
    (hNumber : number < threads.length) (t : Thread σ α) {w : World σ} (hAborted : (w.abort? t.ctx).isSome) :
    ∃ w' a, RunsTimely env number ⟨w, threads.set number t⟩
        ⟨w', threads.set number ⟨t.ctx, .running (.done a)⟩⟩ ∧ w.SameMoment w' := by
  obtain ⟨ctx, progress⟩ := t
  cases progress with
  | running p => exact exists_done_of_running hAborts hNumber p hAborted
  | waiting suspended =>
      obtain ⟨abort, hAbort⟩ := Option.isSome_iff_exists.1 hAborted
      have hMoment := w.sameMoment_giveUp number suspended.wait
      obtain ⟨w', a, hRuns, hSame⟩ := exists_done_of_running hAborts hNumber
        (suspended.next (.error abort)) (hMoment.later.isSome_abort? hAborted)
      exact ⟨w', a, .head (.set hNumber (.abandon hAborts hAbort)) hRuns, hMoment.trans hSame⟩

/-- What is certain of a thread from the moment on at which its context ends it. -/
structure StopsAtOnce (env : Surroundings σ) (number : Nat) (ctx : Context) (aborted : Wait → Abort → α)
    (s : System σ α) : Prop where
  /-- It begins no call and changes nothing on the platform. -/
  quiet : ∀ s' t t' w', RunsTimely env number s s' → s'.threads[number]? = some t →
    t.Step env.aborts number s'.world t' w' → w'.calls = s'.world.calls ∧ w'.platform = s'.world.platform
  /-- No time passes before it has ended. -/
  still : ∀ s', RunsTimely env number s s' → s'.result? number = none → s'.world.now = s.world.now
  /-- It needs nobody to end. -/
  ends : ∀ s', RunsTimely env number s s' → ∃ w a, w.now = s'.world.now ∧
    RunsTimely env number s' ⟨w, s'.threads.set number ⟨ctx, .running (.done a)⟩⟩
  /-- If it is at a wait, it tells so and by what it was ended. -/
  tells : ∀ s' t wait, RunsTimely env number s s' → s'.threads[number]? = some t →
    t.progress.rest.wait? = some wait →
    ∀ s'' a, RunsTimely env number s' s'' → s''.result? number = some a →
      ∃ between abort, RunsTimely env number s' between ∧ RunsTimely env number between s'' ∧
        between.world.abort? ctx = some abort ∧ a = aborted wait abort

namespace HasHeedful

variable (h : s.HasHeedful number ctx aborted t)
include h

/-- Without an end the clock does not go past the deadline. -/
theorem now_le {deadline : Nat} (hDeadline : ctx.deadline = some deadline)
    (hRuns : RunsTimely env number s s') (hUnfinished : s'.result? number = none) :
    s'.world.now ≤ max s.world.now deadline := by
  induction hRuns with
  | refl => exact Nat.le_max_left _ _
  | @tail before after hBefore hStep ih =>
      obtain ⟨t', hThread⟩ := h.runs hBefore
      have hNone := hStep.step.result?_eq_none hThread.thread hUnfinished
      rcases hStep.time with hSame | ⟨t'', hThread', hPass⟩
      · rw [hSame]
        exact ih ((result?_of_thread hThread.thread).trans hNone)
      · obtain rfl := Option.some.inj (hThread.thread.symm.trans hThread')
        cases hPass with
        | ended => cases hNone
        | waiting _ hLimit =>
            obtain rfl := hThread.ctx
            exact Nat.le_trans (hLimit deadline hDeadline) (Nat.le_max_right _ _)

variable (hAborted : (s.world.abort? ctx).isSome)
include hAborted

/-- The thread as it is later, still aborted. -/
theorem aborted_runs (hRuns : RunsTimely env number s s') :
    ∃ t', s'.HasHeedful number ctx aborted t' ∧ (s'.world.abort? t'.ctx).isSome := by
  obtain ⟨t', hThread⟩ := h.runs hRuns
  exact ⟨t', hThread, hThread.ctx ▸ (RunsTimely.later hRuns).isSome_abort? hAborted⟩

theorem now_eq (hRuns : RunsTimely env number s s') (hUnfinished : s'.result? number = none) :
    s'.world.now = s.world.now := by
  induction hRuns with
  | refl => rfl
  | @tail before after hBefore hStep ih =>
      obtain ⟨t', hThread, hStill⟩ := h.aborted_runs hAborted hBefore
      have hNone := hStep.step.result?_eq_none hThread.thread hUnfinished
      rcases hStep.time with hSame | ⟨t'', hThread', hPass⟩
      · exact hSame.trans (ih ((result?_of_thread hThread.thread).trans hNone))
      · obtain rfl := Option.some.inj (hThread.thread.symm.trans hThread')
        cases hPass with
        | ended => cases hNone
        | waiting hAbort _ => simp [hAbort] at hStill

theorem exists_done (hAborts : env.aborts) :
    ∃ w a, w.now = s.world.now ∧
      RunsTimely env number s ⟨w, s.threads.set number ⟨ctx, .running (.done a)⟩⟩ := by
  obtain ⟨hThread, rfl, -⟩ := h
  obtain ⟨hNumber, rfl⟩ := List.getElem?_eq_some_iff.1 hThread
  obtain ⟨w, a, hRuns, hSame⟩ := exists_done_of_aborted hAborts hNumber s.threads[number] hAborted
  rw [List.set_getElem_self] at hRuns
  exact ⟨w, a, hSame.now, hRuns⟩

/-- Where an aborted thread can be: still at its wait, or on the way out. -/
theorem stands_or_quits {wait : Wait} (hWait : t.progress.rest.wait? = some wait)
    (hRuns : RunsTimely env number s s') :
    (∃ t', s'.HasHeedful number ctx aborted t' ∧ t'.progress.rest.wait? = some wait) ∨
    ∃ between abort p, RunsTimely env number s between ∧ RunsTimely env number between s' ∧
      between.world.abort? ctx = some abort ∧
      s'.threads[number]? = some ⟨ctx, .running p⟩ ∧ p.Quits (aborted wait abort) := by
  induction hRuns with
  | refl => exact .inl ⟨t, h, hWait⟩
  | @tail before after hBefore hStep ih =>
      rcases ih with ⟨t', hThread, hStands⟩ | ⟨between, abort, p, hFirst, hSecond, hAbort, hThread, hQuits⟩
      · have hStill := (RunsTimely.later hBefore).isSome_abort? hAborted
        rcases hStep.step.thread_cases hThread.thread with hSame | ⟨⟨ctx', progress⟩, hThread', hOwn⟩
        · exact .inl ⟨t', ⟨hSame, hThread.ctx, hThread.heeds⟩, hStands⟩
        · have hSameCtx : ctx' = ctx := hOwn.ctx_eq.trans hThread.ctx
          rw [← hThread.ctx] at hStill
          obtain ⟨abort, p, hAbort, hProgress, hQuits⟩ := hOwn.quits hStill hStands hThread.heeds
          obtain rfl : progress = .running p := hProgress
          rw [hThread.ctx] at hAbort
          exact .inr ⟨before, abort, p, hBefore, .single hStep, hAbort, hSameCtx ▸ hThread', hQuits⟩
      · refine .inr ⟨between, abort, ?_⟩
        rcases hStep.step.thread_cases hThread with hSame | ⟨⟨ctx', progress⟩, hThread', hOwn⟩
        · exact ⟨p, hFirst, hSecond.tail hStep, hAbort, hSame, hQuits⟩
        · obtain ⟨q, hProgress, hQuits'⟩ := hOwn.of_quits rfl hQuits
          obtain rfl : progress = .running q := hProgress
          obtain rfl : ctx' = ctx := hOwn.ctx_eq
          exact ⟨q, hFirst, hSecond.tail hStep, hAbort, hThread', hQuits'⟩

theorem eq_aborted {wait : Wait} {a : α} (hWait : t.progress.rest.wait? = some wait)
    (hRuns : RunsTimely env number s s') (hResult : s'.result? number = some a) :
    ∃ between abort, RunsTimely env number s between ∧ RunsTimely env number between s' ∧
      between.world.abort? ctx = some abort ∧ a = aborted wait abort := by
  rcases h.stands_or_quits hAborted hWait hRuns with ⟨⟨ctx', progress⟩, hThread, hStands⟩ |
    ⟨between, abort, p, hFirst, hSecond, hAbort, hThread, hQuits⟩
  · rw [result?_of_thread hThread.thread] at hResult
    cases progress with
    | waiting suspended => cases hResult
    | running p =>
        cases p with
        | done b => cases hStands
        | act action next => cases hStands
        | await wait next => cases hResult
  · rw [result?_of_thread hThread] at hResult
    cases p with
    | done b =>
        cases hResult
        exact ⟨between, abort, hFirst, hSecond, hAbort, hQuits⟩
    | act action next => cases hResult
    | await wait next => cases hResult

theorem stopsAtOnce (hAborts : env.aborts) : s.StopsAtOnce env number ctx aborted where
  quiet := by
    intro s' t₁ t₂ w' hRuns hThread hStep
    obtain ⟨t', hThread', hStill⟩ := h.aborted_runs hAborted hRuns
    obtain rfl := Option.some.inj (hThread'.thread.symm.trans hThread)
    exact hStep.quiet hStill
  still := fun s' hRuns hUnfinished => h.now_eq hAborted hRuns hUnfinished
  ends := by
    intro s' hRuns
    obtain ⟨t', hThread, hStill⟩ := h.aborted_runs hAborted hRuns
    rw [hThread.ctx] at hStill
    exact hThread.exists_done hStill hAborts
  tells := by
    intro s' t₁ wait hRuns hThread hWait s'' a hRest hResult
    obtain ⟨t', hThread', hStill⟩ := h.aborted_runs hAborted hRuns
    obtain rfl := Option.some.inj (hThread'.thread.symm.trans hThread)
    rw [hThread'.ctx] at hStill
    exact hThread'.eq_aborted hStill hWait hRest hResult

end HasHeedful

/-- What is certain of a thread that begins in a system: while it has not ended the clock does not go past its
deadline, and it stops at once when its context ends. -/
structure MindsContext (env : Surroundings σ) (number : Nat) (ctx : Context) (aborted : Wait → Abort → α)
    (s : System σ α) : Prop where
  inTime : ∀ s', RunsTimely env number s s' → s'.result? number = none →
    ∀ deadline, ctx.deadline = some deadline → s'.world.now ≤ max s.world.now deadline
  stops : ∀ s', RunsTimely env number s s' → (s'.world.abort? ctx).isSome →
    s'.StopsAtOnce env number ctx aborted

theorem mindsContext {p : Procedure α} (hAborts : env.aborts) (hHeeds : p.Heeds aborted)
    (hThread : s.threads[number]? = some (.start (ctx, p))) : s.MindsContext env number ctx aborted where
  inTime := fun _ hRuns hUnfinished _ hDeadline =>
    HasHeedful.now_le ⟨hThread, rfl, hHeeds⟩ hDeadline hRuns hUnfinished
  stops := by
    intro s' hRuns hAborted
    obtain ⟨t', hThread'⟩ := HasHeedful.runs ⟨hThread, rfl, hHeeds⟩ hRuns
    exact hThread'.stopsAtOnce hAborted hAborts

end System

/-- The five operations on volumes, the start-up check and the routes stop at once when they are aborted, in a
system of any threads on any platform. `answer` brings their results to the type that all threads share. -/
theorem aborted_requests_stop_at_once [Bench σ] {env : Surroundings σ} (hAborts : env.aborts) (c : Controller)
    (number : Nat) (s : System σ α) :
    (∀ (ctx : Context) (request : VolumeRequest) (answer : Except Error request.Response → α),
      s.threads[number]? = some (.start (ctx, answer <$> (c.handle request).run)) →
      s.MindsContext env number ctx fun wait abort => answer (wait.aborted abort)) ∧
    (∀ (ctx : Context) (answer : Except Error Unit → α),
      s.threads[number]? = some (.start (ctx, answer <$> Startup.check.run)) →
      s.MindsContext env number ctx fun wait abort => answer (wait.aborted abort)) ∧
    ∀ (shutdown : Nat) (timeoutSecs : UInt64) (request : Http.Request) (answer : Http.Response → α),
      let ctx := Http.requestContext shutdown timeoutSecs s.world.now
      s.threads[number]? = some (.start (ctx, answer <$> Http.respond c request)) →
      s.MindsContext env number ctx fun wait abort => answer (Http.abortResponse wait abort) := by
  refine ⟨?_, ?_, ?_⟩
  · intro ctx request answer hThread
    exact System.mindsContext hAborts ((Procedure.Heeds.handle c request).map answer) hThread
  · intro ctx answer hThread
    exact System.mindsContext hAborts (Procedure.Heeds.check.map answer) hThread
  · intro shutdown timeoutSecs request answer ctx hThread
    exact System.mindsContext hAborts ((Procedure.Heeds.respond c request).map answer) hThread

/-- An inventory whose sites take a while to be listed. -/
def Inventory.slow : Inventory :=
  (obey (.delay none (some 100)) (ofConfig .single)).2

/-- A deletion that has five milliseconds, which is less than it takes to list the sites. -/
theorem aborted_requests_stop_at_once_slow :
    ∃ s : System Inventory (Except Error DeleteVolumeResponse),
      System.RunsTimely Inventory.rough 0
        (.start { platform := .slow } [(⟨[], some 5⟩, (Controller.deleteVolume ⟨"a"⟩).run)]) s ∧
      s.world.calls = [.listSites] ∧ s.result? 0 = none ∧ s.world.now = 5 ∧
      ∀ s' a, System.RunsTimely Inventory.rough 0 s s' → s'.result? 0 = some a →
        a = .error (.deadlineExceeded "ListBackendInstances") := by
  let ctx : Context := ⟨[], some 5⟩
  let begun := (World.openWait ({ platform := .slow } : World Inventory) 0 (.call .listSites)).2
  obtain ⟨next, hFirst⟩ : ∃ next, (Controller.deleteVolume ⟨"a"⟩).run = .await (.call .listSites) next := ⟨_, rfl⟩
  let waiting : Thread Inventory (Except Error DeleteVolumeResponse) :=
    ⟨ctx, .waiting ⟨.call .listSites, .call ⟨(), 100⟩, next⟩⟩
  have hEnter : System.TimelyStep Inventory.rough 0
      (.start { platform := .slow } [(ctx, (Controller.deleteVolume ⟨"a"⟩).run)]) ⟨begun, [waiting]⟩ := by
    rw [hFirst]
    exact ⟨.thread rfl (.enter rfl), .inl rfl⟩
  have hClock : System.TimelyStep Inventory.rough 0 ⟨begun, [waiting]⟩ ⟨{ begun with now := 5 }, [waiting]⟩ := by
    refine ⟨.clock 5 (Nat.zero_le 5), .inr ⟨waiting, rfl, .waiting rfl fun deadline hDeadline => ?_⟩⟩
    cases hDeadline
    exact Nat.le_refl 5
  have hRuns := Relation.ReflTransGen.tail (.single hEnter) hClock
  have hAborts : Inventory.rough.aborts := trivial
  have hMinds := (aborted_requests_stop_at_once hAborts ⟨{}, ⟨true, 0⟩⟩ 0
    (.start { platform := Inventory.slow } [(ctx, (Controller.deleteVolume ⟨"a"⟩).run)])).1 ctx (.delete ⟨"a"⟩) id
    (by rw [id_map]; rfl)
  refine ⟨_, hRuns, rfl, rfl, rfl, fun s' a hRest hResult => ?_⟩
  obtain ⟨between, abort, -, -, hAbort, rfl⟩ :=
    (hMinds.stops _ hRuns rfl).tells _ waiting _ .refl rfl rfl s' a hRest hResult
  rw [World.abort?, Context.abort?, if_neg (by simp [Context.isCancelled, ctx])] at hAbort
  split at hAbort <;> cases hAbort
  rfl

end VolumeController

import VolumeController.Controller
import VolumeController.Proofs.Interleaving.Rules
/-! Rules for the operations that requests are made of: notes, failures and calls. An invariant that does
not look at the log and the counters is kept by everything but calls and locks. -/

namespace VolumeController.Rules

variable {σ Γ α β : Type} {R : Rules σ Γ} {number : Nat} {stage : Γ}

/-- An invariant of the platform and the locks: what is logged and counted is of no account. -/
structure IgnoresRecords (R : Rules σ Γ) : Prop where
  log : ∀ (w : World σ) stages log, R.invariant w stages → R.invariant { w with log } stages
  metrics : ∀ (w : World σ) stages metrics, R.invariant w stages →
    R.invariant { w with metrics } stages

namespace Follows

variable [Platform σ]

theorem pure {a : α} {goal : Except Error α → Γ → Prop} (h : goal (.ok a) stage) :
    R.Follows number goal (Pure.pure a : Operation α).run stage := h

theorem throw {e : Error} {goal : Except Error α → Γ → Prop} (h : goal (.error e) stage) :
    R.Follows number goal (MonadExcept.throw e : Operation α).run stage := h

theorem note (hR : R.IgnoresRecords) {event : Event} {goal : Except Error Unit → Γ → Prop}
    (h : goal (.ok ()) stage) : R.Follows number goal (Operation.note event).run stage :=
  fun w => Leads.stay h fun stages hInvariant _ => hR.log w stages _ hInvariant

/-- A note changes nothing for what comes after it. -/
theorem afterNote (hR : R.IgnoresRecords) {event : Event} {op : Operation α}
    {goal : Except Error α → Γ → Prop} (h : R.Follows number goal op.run stage) :
    R.Follows number goal (do Operation.note event; op : Operation α).run stage :=
  bindOperation (note hR h)

theorem reject (hR : R.IgnoresRecords) {cause : Cause} {goal : Except Error α → Γ → Prop}
    (h : goal (.error cause.toError) stage) :
    R.Follows number goal (Operation.reject cause : Operation α).run stage :=
  afterNote hR (throw h)

theorem ofCause (hR : R.IgnoresRecords) {result : Except Cause α} {goal : Except Error α → Γ → Prop}
    (hOk : ∀ a, result = .ok a → goal (.ok a) stage)
    (hError : ∀ cause, result = .error cause → goal (.error cause.toError) stage) :
    R.Follows number goal (Operation.ofCause result).run stage := by
  cases result with
  | ok a => exact hOk a rfl
  | error cause => exact reject hR (hError cause rfl)

theorem attempt {op : Operation α} {goal : Except Error (Except Error α) → Γ → Prop}
    (h : R.Follows number (fun result g => goal (.ok result) g) op.run stage) :
    R.Follows number goal (Operation.attempt op).run stage :=
  bind h

/-- Counting the outcome of an operation is of no account either. -/
theorem instrumented (hR : R.IgnoresRecords) {name : String} {op : Operation α}
    {goal : Except Error α → Γ → Prop} (h : R.Follows number goal op.run stage) :
    R.Follows number goal (Controller.instrumented name op).run stage := by
  refine bind (h.mono fun result g hGoal => ?_)
  exact fun w => Leads.stay hGoal fun stages hInvariant _ => hR.metrics w stages _ hInvariant

/-- A call: the thread is at a stage of its own while the call is under way. An abort finds it before the
call or at that stage; otherwise the platform's finish leads on. -/
theorem awaitCall {c : Call} {next : Except Abort c.Reply → Procedure α} {goal : α → Γ → Prop} (busy : Γ)
    (hRefuse : R.aborts → ∀ abort (w : World σ),
      R.Leads number stage w w (R.Follows number goal (next (.error abort))))
    (hStart : ∀ w : World σ, R.Leads number stage w (w.start c).2 (· = busy))
    (hAbandon : R.aborts → ∀ abort (w : World σ),
      R.Leads number busy w w (R.Follows number goal (next (.error abort))))
    (hFinish : ∀ (w : World σ) started,
      R.Leads number busy w (w.finish c started).2
        (R.Follows number goal (next (.ok (w.finish c started).1)))) :
    R.Follows number goal (.await (.call c) next) stage := by
  refine ⟨hRefuse, fun g _ => g = busy, fun w => hStart w, ?_⟩
  rintro g ⟨started⟩ rfl
  refine ⟨hAbandon, ?_, ?_⟩
  · intro w answer w' hPoll
    obtain ⟨rfl, rfl⟩ := World.answer_of_poll_call hPoll
    exact hFinish w started
  · intro w pending' w' hPoll
    obtain ⟨-, rfl⟩ := World.pending_of_poll_call hPoll
    exact Leads.stay rfl fun stages hInvariant _ => hInvariant

/-- The same for the call of an operation. -/
theorem call {c : Call} {operation : String} {goal : Except Error c.Reply → Γ → Prop} (busy : Γ)
    (hRefuse : R.aborts → ∀ abort (w : World σ),
      R.Leads number stage w w (goal (.error (Operation.abortError operation abort))))
    (hStart : ∀ w : World σ, R.Leads number stage w (w.start c).2 (· = busy))
    (hAbandon : R.aborts → ∀ abort (w : World σ),
      R.Leads number busy w w (goal (.error (Operation.abortError operation abort))))
    (hFinish : ∀ (w : World σ) started,
      R.Leads number busy w (w.finish c started).2 (goal (.ok (w.finish c started).1))) :
    R.Follows number goal (Operation.call operation c).run stage :=
  awaitCall busy hRefuse hStart hAbandon hFinish

/-- A call during which the thread stays at one stage. -/
theorem callInPlace {c : Call} {next : Except Abort c.Reply → Procedure α} {goal : α → Γ → Prop}
    (hStart : ∀ (w : World σ) stages, R.invariant w stages → R.invariant (w.start c).2 stages)
    (hAbort : R.aborts → ∀ abort, R.Follows number goal (next (.error abort)) stage)
    (hFinish : ∀ (w : World σ) started, R.Leads number stage w (w.finish c started).2
      (R.Follows number goal (next (.ok (w.finish c started).1)))) :
    R.Follows number goal (.await (.call c) next) stage := by
  refine awaitCall stage ?_ ?_ ?_ hFinish
  · exact fun hAborts abort w => Leads.stay (hAbort hAborts abort) fun _ hInvariant _ => hInvariant
  · exact fun w => Leads.stay rfl fun stages hInvariant _ => hStart w stages hInvariant
  · exact fun hAborts abort w => Leads.stay (hAbort hAborts abort) fun _ hInvariant _ => hInvariant

/-- A lock: the thread is at a stage of its own while it waits for it. An abort finds it before the wait or at that
stage; otherwise it learns at some moment that it holds the lock. -/
theorem awaitLock {lock : LockId} {next : Except Abort Unit → Procedure α} {goal : α → Γ → Prop} (queued : Γ)
    (hRefuse : R.aborts → ∀ abort (w : World σ),
      R.Leads number stage w w (R.Follows number goal (next (.error abort))))
    (hRequest : ∀ w : World σ,
      R.Leads number stage w { w with locks := w.locks.modify lock (·.request number) } (· = queued))
    (hAbandon : R.aborts → ∀ abort (w : World σ),
      R.Leads number queued w { w with locks := w.locks.modify lock (·.withdraw number) }
        (R.Follows number goal (next (.error abort))))
    (hGrant : ∀ w : World σ, w.locks.isHeldBy lock number →
      R.Leads number queued w w (R.Follows number goal (next (.ok ())))) :
    R.Follows number goal (.await (.lock lock) next) stage := by
  refine ⟨hRefuse, fun g _ => g = queued, fun w => hRequest w, ?_⟩
  rintro g ⟨⟩ rfl
  refine ⟨hAbandon, ?_, ?_⟩
  · intro w answer w' hPoll
    obtain ⟨hHeld, rfl⟩ := World.answer_of_poll_lock hPoll
    exact hGrant w' hHeld
  · intro w pending' w' hPoll
    obtain ⟨-, rfl⟩ := World.pending_of_poll_lock hPoll
    exact Leads.stay rfl fun stages hInvariant _ => hInvariant

end Follows

end VolumeController.Rules

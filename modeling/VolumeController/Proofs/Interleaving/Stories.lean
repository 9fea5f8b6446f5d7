import Mathlib.Data.List.Infix
import VolumeController.Proofs.Interleaving.Chronicles
/-! Stories: paths on which it is written down what a procedure notes on its way, beside what it hears. Main results:
a procedure of which something is shown for all that it may note and hear ends in keeping with every story, and every
thread got by a story to where it is, whose notes stand in the log in the order in which they were made. -/

namespace VolumeController

variable {σ α β : Type}

/-- What an action writes to the log. -/
def Action.noted : Action → List Event
  | .note event => [event]
  | _ => []

/-- The ways from a procedure to what is left of it, each with what was heard and what was noted. -/
inductive Procedure.Story : Procedure α → List Exchange → List Event → Procedure α → Prop where
  | refl (p : Procedure α) : Story p [] [] p
  | act {action : Action} {next : action.Answer → Procedure α} {heard : List Exchange} {noted : List Event}
      {q : Procedure α} (answer : action.Answer) (h : Story (next answer) heard noted q) :
      Story (.act action next) heard (action.noted ++ noted) q
  | await {wait : Wait} {next : Except Abort wait.Answer → Procedure α} {heard : List Exchange}
      {noted : List Event} {q : Procedure α} (answer : Except Abort wait.Answer)
      (h : Story (next answer) heard noted q) : Story (.await wait next) (⟨wait, answer⟩ :: heard) noted q

/-- Whether a procedure that has heard and noted something ends as wanted, whatever it is told. -/
def Procedure.Notes (goal : List Exchange → List Event → α → Prop) :
    Procedure α → List Exchange → List Event → Prop
  | .done a, told, noted => goal told noted a
  | .act action next, told, noted => ∀ answer, Notes goal (next answer) told (noted ++ action.noted)
  | .await wait next, told, noted => ∀ answer, Notes goal (next answer) (told ++ [⟨wait, answer⟩]) noted

namespace Procedure

variable {p q r : Procedure α} {told heard heard' : List Exchange} {noted noted' : List Event}

theorem Story.trans (h : p.Story heard noted q) (h' : q.Story heard' noted' r) :
    p.Story (heard ++ heard') (noted ++ noted') r := by
  induction h with
  | refl p => exact h'
  | act answer _ ih =>
      rw [List.append_assoc]
      exact .act answer (ih h')
  | await answer _ ih => exact .await answer (ih h')

/-- What is left of a procedure goes on from what was heard and noted on the way. -/
theorem Story.notes {goal : List Exchange → List Event → α → Prop} (h : p.Story heard noted q)
    (hNotes : p.Notes goal told noted') : q.Notes goal (told ++ heard) (noted' ++ noted) := by
  induction h generalizing told noted' with
  | refl p => rwa [List.append_nil, List.append_nil]
  | act answer _ ih =>
      have hNext := ih (hNotes answer)
      rwa [List.append_assoc] at hNext
  | await answer _ ih =>
      have hNext := ih (hNotes answer)
      rwa [List.append_assoc] at hNext

namespace Notes

theorem mono {goal goal' : List Exchange → List Event → α → Prop} (h : p.Notes goal told noted)
    (hGoal : ∀ told noted a, goal told noted a → goal' told noted a) : p.Notes goal' told noted := by
  induction p generalizing told noted with
  | done a => exact hGoal told noted a h
  | act action next ih => exact fun answer => ih answer (h answer)
  | await wait next ih => exact fun answer => ih answer (h answer)

theorem bind {f : α → Procedure β} {goal : List Exchange → List Event → β → Prop}
    (h : p.Notes (fun told noted a => (f a).Notes goal told noted) told noted) :
    (p >>= f).Notes goal told noted := by
  induction p generalizing told noted with
  | done a => exact h
  | act action next ih => exact fun answer => ih answer (h answer)
  | await wait next ih => exact fun answer => ih answer (h answer)

/-- An action that is not noted. -/
theorem afterAction {action : Action} {next : action.Answer → Procedure α}
    {goal : List Exchange → List Event → α → Prop} (hSilent : action.noted = [])
    (h : ∀ answer, (next answer).Notes goal told noted) : (Procedure.act action next).Notes goal told noted := by
  intro answer
  rw [hSilent, List.append_nil]
  exact h answer

/-! Operations. -/

theorem bindOperation {op : Operation α} {f : α → Operation β}
    {goal : List Exchange → List Event → Except Error β → Prop}
    (h : op.run.Notes (fun told noted result => match result with
      | .ok a => (f a).run.Notes goal told noted
      | .error e => goal told noted (.error e)) told noted) : (op >>= f).run.Notes goal told noted := by
  apply bind
  apply h.mono
  intro told noted result hResult
  cases result <;> exact hResult

variable {goal : List Exchange → List Event → Except Error α → Prop}

theorem afterNote {event : Event} {op : Operation α} (h : op.run.Notes goal told (noted ++ [event])) :
    (do Operation.note event; op : Operation α).run.Notes goal told noted :=
  bindOperation fun _ => h

theorem reject {cause : Cause} (h : goal told (noted ++ [.failed cause]) (.error cause.toError)) :
    (Operation.reject cause : Operation α).run.Notes goal told noted :=
  afterNote h

theorem waitThen {operation : String} {wait : Wait} {f : wait.Answer → Operation α}
    (hAbort : ∀ abort, goal (told ++ [⟨wait, .error abort⟩]) noted (.error (Operation.abortError operation abort)))
    (hAnswer : ∀ answer, (f answer).run.Notes goal (told ++ [⟨wait, .ok answer⟩]) noted) :
    (Operation.wait operation wait >>= f).run.Notes goal told noted := by
  refine bindOperation fun answer => ?_
  cases answer with
  | error abort => exact hAbort abort
  | ok answer => exact hAnswer answer

theorem attempt {op : Operation α} {goal : List Exchange → List Event → Except Error (Except Error α) → Prop}
    (h : op.run.Notes (fun told noted result => goal told noted (.ok result)) told noted) :
    (Operation.attempt op).run.Notes goal told noted :=
  bind h

theorem instrumented {name : String} {op : Operation α} (h : op.run.Notes goal told noted) :
    (Controller.instrumented name op).run.Notes goal told noted :=
  bind (h.mono fun _ _ _ hGoal => afterAction rfl fun _ => hGoal)

/-- An operation under a lock. The lock itself is not noted. -/
theorem locked {name : LockName} {op : Operation α}
    (hAbort : ∀ lock abort, goal (told ++ [⟨.lock lock, .error abort⟩]) noted
      (.error (Operation.abortError "AcquireNameLock" abort)))
    (h : ∀ lock, op.run.Notes goal (told ++ [⟨.lock lock, .ok ()⟩]) noted) :
    (VolumeStore.locked name op).run.Notes goal told noted := by
  refine afterAction rfl fun lock => ?_
  intro answer
  cases answer with
  | error abort => exact afterAction rfl fun _ => afterAction rfl fun _ => hAbort lock abort
  | ok held =>
      have hWork : Procedure.Notes (fun told noted result => (do
            Procedure.perform (.dropHandle lock)
            Procedure.perform (.sweep name)
            return result : Procedure (Except Error α)).Notes goal told noted)
          (do
            let result ← op.run
            Procedure.perform (.unlock lock)
            return result : Procedure (Except Error α)) (told ++ [⟨.lock lock, .ok ()⟩]) noted := by
        apply bind
        apply (h lock).mono
        intro told noted result hGoal
        exact afterAction rfl fun _ => afterAction rfl fun _ => afterAction rfl fun _ => hGoal
      exact bind hWork

end Notes

end Procedure

/-! The log only grows. -/

namespace World

open List (suffix_rfl)

variable (w : World σ)

theorem log_giveUp (task : Nat) (wait : Wait) : (w.giveUp task wait).log = w.log := by
  cases wait <;> rfl

variable [Platform σ]

theorem log_suffix_finish (c : Call) (started : Started σ) : w.log <:+ (w.finish c started).2.log :=
  List.suffix_append _ _

theorem log_suffix_pollSlot (slot : Slot σ) : w.log <:+ (w.pollSlot slot).2.log := by
  cases slot with
  | answered reply => exact suffix_rfl
  | waiting dc started =>
      by_cases hDue : started.due ≤ w.now
      · rw [pollSlot, if_pos hDue]
        exact w.log_suffix_finish (.listDisks dc) started
      · rw [pollSlot, if_neg hDue]

theorem log_suffix_pollSlots (slots : List (Slot σ)) : w.log <:+ (w.pollSlots slots).2.log := by
  induction slots generalizing w with
  | nil => exact suffix_rfl
  | cons slot slots ih => exact (w.log_suffix_pollSlot slot).trans (ih _)

theorem log_suffix_startSlots (dcs : List Datacenter) : w.log <:+ (w.startSlots dcs).2.log := by
  induction dcs generalizing w with
  | nil => exact suffix_rfl
  | cons dc dcs ih =>
      rw [startSlots]
      exact ((w.start (.listDisks dc)).2.log_suffix_pollSlot _).trans (ih _)

theorem log_suffix_openWait (task : Nat) (wait : Wait) : w.log <:+ (w.openWait task wait).2.log := by
  cases wait with
  | listings dcs => exact w.log_suffix_startSlots dcs
  | _ => exact suffix_rfl

theorem log_suffix_poll (task : Nat) {wait : Wait} (pending : Pending σ wait) :
    w.log <:+ (w.poll task pending).2.log := by
  cases pending with
  | call started =>
      rcases w.poll_call task started with h | h
      · rw [h]
        exact w.log_suffix_finish _ started
      · rw [h]
  | listings slots =>
      simp only [poll]
      split <;> exact w.log_suffix_pollSlots slots
  | _ => exact suffix_rfl

theorem log_perform (action : Action) : (w.perform action).2.log = action.noted.reverse ++ w.log := by
  cases action <;> rfl

end World

/-- A step goes along a story of what is heard by it, and what it notes is written to the log. -/
theorem Thread.Step.exists_story [Platform σ] {aborts : Prop} {number : Nat} {t t' : Thread σ α} {w w' : World σ}
    (h : t.Step aborts number w t' w') : ∃ noted written,
      t.progress.rest.Story (t.hears number w).toList noted t'.progress.rest ∧ w'.log = written ++ w.log ∧
      noted.reverse.Sublist written := by
  have hQuiet (hLog : w.log <:+ w'.log)
      (hStory : t.progress.rest.Story (t.hears number w).toList [] t'.progress.rest) :
      ∃ noted written, t.progress.rest.Story (t.hears number w).toList noted t'.progress.rest ∧
        w'.log = written ++ w.log ∧ noted.reverse.Sublist written := by
    obtain ⟨written, hWritten⟩ := hLog
    exact ⟨[], written, hStory, hWritten.symm, List.nil_sublist _⟩
  cases h with
  | act action next =>
      refine ⟨action.noted, action.noted.reverse, ?_, w.log_perform action, .refl _⟩
      rw [← List.append_nil action.noted]
      exact .act _ (.refl _)
  | refuse _ hAbort =>
      refine hQuiet List.suffix_rfl ?_
      simp only [hears, hAbort, Option.map_some]
      exact .await _ (.refl _)
  | enter hAbort =>
      refine hQuiet (w.log_suffix_openWait _ _) ?_
      simp only [hears, hAbort, Option.map_none]
      exact .refl _
  | abandon _ hAbort =>
      refine hQuiet (w.log_giveUp _ _ ▸ List.suffix_rfl) ?_
      simp only [hears, hAbort]
      exact .await _ (.refl _)
  | @answer _ _ _ s _ hAbort hPoll =>
      have hLog := w.log_suffix_poll number s.pending
      rw [hPoll] at hLog
      refine hQuiet hLog ?_
      simp only [hears, hAbort, hPoll]
      exact .await _ (.refl _)
  | @linger _ _ _ s _ hAbort hPoll =>
      have hLog := w.log_suffix_poll number s.pending
      rw [hPoll] at hLog
      refine hQuiet hLog ?_
      simp only [hears, hAbort, hPoll]
      exact .refl _

namespace Chronicle

variable [Bench σ] {env : Surroundings σ} {kind : Chronicle σ α → Chronicle σ α → Prop} {c c' : Chronicle σ α}
  {number : Nat} {w : World σ} {jobs : List (Context × Procedure α)} {job : Context × Procedure α} {t : Thread σ α}

/-- A thread got by a story of what it heard to where it is, and what it noted stands in the log, in order. -/
theorem Runs.exists_story (h : Runs env kind (start w jobs) c) (hJob : jobs[number]? = some job)
    (hThread : c.system.threads[number]? = some t) : ∃ noted written,
      job.2.Story (c.heardBy number) noted t.progress.rest ∧ c.system.world.log = written ++ w.log ∧
      noted.reverse.Sublist written := by
  induction h generalizing t with
  | refl =>
      obtain ⟨job', hJob', rfl⟩ := Option.map_eq_some_iff.1 (List.getElem?_map ▸ hThread)
      obtain rfl := Option.some.inj (hJob.symm.trans hJob')
      exact ⟨[], [], .refl _, rfl, .refl _⟩
  | @tail c₁ c₂ _ hLast ih =>
      cases hLast.1 with
      | clock => exact ih hThread
      | cancel => exact ih hThread
      | command => exact ih hThread
      | @turn number' t₁ t₂ w' hBefore hStep =>
          rcases getElem?_set_cases hThread with ⟨rfl, rfl⟩ | ⟨hSame, hThread⟩
          · obtain ⟨noted, written, hStory, hLog, hNoted⟩ := ih hBefore
            obtain ⟨noted', written', hStory', hLog', hNoted'⟩ := hStep.exists_story
            refine ⟨noted ++ noted', written' ++ written, ?_, ?_, ?_⟩
            · rw [heardBy, Turn.heardBy_cons_self]
              exact hStory.trans hStory'
            · rw [List.append_assoc, ← hLog, ← hLog']
            · rw [List.reverse_append]
              exact hNoted'.append hNoted
          · obtain ⟨noted, written, hStory, hLog, hNoted⟩ := ih hThread
            obtain ⟨_, written', -, hLog', -⟩ := hStep.exists_story
            refine ⟨noted, written' ++ written, ?_, ?_, hNoted.trans (List.sublist_append_right _ _)⟩
            · rw [heardBy, Turn.heardBy_cons_of_ne hSame]
              exact hStory
            · rw [List.append_assoc, ← hLog, ← hLog']

/-- A thread that has ended has a story. -/
theorem Runs.exists_story_of_result (h : Runs env kind (start w jobs) c) (hJob : jobs[number]? = some job) {a : α}
    (hResult : c.result? number = some a) : ∃ noted written,
      job.2.Story (c.heardBy number) noted (.done a) ∧ c.system.world.log = written ++ w.log ∧
      noted.reverse.Sublist written := by
  obtain ⟨⟨ctx, progress⟩, hThread, hEnd⟩ := Option.bind_eq_some_iff.1 hResult
  have hStory := h.exists_story hJob hThread
  cases progress with
  | waiting s => cases hEnd
  | running p =>
      cases p with
      | done b =>
          obtain rfl : b = a := Option.some.inj hEnd
          exact hStory
      | act action next => cases hEnd
      | await wait next => cases hEnd

end Chronicle

end VolumeController

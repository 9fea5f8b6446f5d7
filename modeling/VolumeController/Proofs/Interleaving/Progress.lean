import VolumeController.Proofs.Contracts
import VolumeController.Proofs.Interleaving.Schedule
/-! Progress. A thread that waits for nothing but the platform, under a context that ends no wait, can always be
carried to its end: it is enough to let time pass. Main result: whatever has happened, a system of threads that wait
for nothing but calls can finish. -/

namespace VolumeController

variable {σ α β : Type}

/-- A procedure that waits for nothing but calls. -/
inductive Procedure.OnlyCalls : Procedure α → Prop where
  | done (a : α) : OnlyCalls (.done a)
  | act {action : Action} {next : action.Answer → Procedure α} (h : ∀ answer, OnlyCalls (next answer)) :
      OnlyCalls (.act action next)
  | call {c : Call} {next : Except Abort c.Reply → Procedure α} (h : ∀ answer, OnlyCalls (next answer)) :
      OnlyCalls (.await (.call c) next)

namespace Procedure.OnlyCalls

theorem bind {p : Procedure α} {f : α → Procedure β} (h : p.OnlyCalls) (hf : ∀ a, (f a).OnlyCalls) :
    (p >>= f).OnlyCalls := by
  induction h with
  | done a => exact hf a
  | act _ ih => exact .act ih
  | call _ ih => exact .call ih

theorem bindOperation {op : Operation α} {f : α → Operation β} (h : Procedure.OnlyCalls op.run)
    (hf : ∀ a, Procedure.OnlyCalls (f a).run) : Procedure.OnlyCalls (op >>= f).run := by
  refine h.bind ?_
  rintro (e | a)
  · exact .done _
  · exact hf a

theorem note (event : Event) : Procedure.OnlyCalls (Operation.note event).run :=
  .act fun _ => .done _

theorem reject (cause : Cause) : Procedure.OnlyCalls (Operation.reject cause : Operation α).run :=
  bindOperation (note _) fun _ => .done _

theorem callOperation (operation : String) (c : Call) :
    Procedure.OnlyCalls (Operation.call operation c).run := by
  refine .call ?_
  rintro (abort | reply)
  · exact .done _
  · exact .done _

end Procedure.OnlyCalls

/-- A context that ends no wait, whatever is cancelled and whatever the time. -/
def Context.Endless (ctx : Context) : Prop :=
  ∀ cancelled now, ctx.abort? cancelled now = none

/-- A thread that will wait for nothing but calls, and that its context lets go on. -/
structure Thread.Free [Platform σ] (t : Thread σ α) : Prop where
  endless : t.ctx.Endless
  calls : match t.progress with
    | .running p => p.OnlyCalls
    | .waiting s => (∃ c, s.wait = .call c) ∧ ∀ answer, (s.next answer).OnlyCalls

theorem Thread.Free.step [Platform σ] {aborts : Prop} {number : Nat} {t t' : Thread σ α} {w w' : World σ} (h : t.Free)
    (hStep : t.Step aborts number w t' w') : t'.Free := by
  obtain ⟨hEndless, hCalls⟩ := h
  cases hStep with
  | act action next =>
      cases hCalls with
      | act hNext => exact ⟨hEndless, hNext _⟩
  | refuse _ _ =>
      cases hCalls with
      | call hNext => exact ⟨hEndless, hNext _⟩
  | enter _ =>
      cases hCalls with
      | call hNext => exact ⟨hEndless, ⟨_, rfl⟩, hNext⟩
  | abandon _ _ => exact ⟨hEndless, hCalls.2 _⟩
  | answer _ _ => exact ⟨hEndless, hCalls.2 _⟩
  | linger _ _ => exact ⟨hEndless, hCalls⟩

/-! Waits for the platform. -/

namespace World

variable [Platform σ] {w : World σ}

/-- When it is late enough all replies are there. -/
theorem exists_replies? (slots : List (Slot σ)) (h : ∀ dc started, .waiting dc started ∈ slots →
    started.due ≤ w.now) : ∃ replies, replies? (w.pollSlots slots).1 = some replies := by
  induction slots generalizing w with
  | nil => exact ⟨[], rfl⟩
  | cons slot slots ih =>
      have hNow := (sameMoment_pollSlot w slot).now
      have hLate : ∀ dc started, .waiting dc started ∈ slots → started.due ≤ (w.pollSlot slot).2.now := by
        intro dc started hSlot
        rw [hNow]
        exact h dc started (List.mem_cons_of_mem _ hSlot)
      obtain ⟨rest, hRest⟩ := ih hLate
      obtain ⟨reply, hReply⟩ : ∃ reply, (w.pollSlot slot).1 = .answered reply := by
        cases slot with
        | answered reply => exact ⟨reply, rfl⟩
        | waiting dc started =>
            simp only [pollSlot, if_pos (h dc started List.mem_cons_self)]
            exact ⟨_, rfl⟩
      refine ⟨reply :: rest, ?_⟩
      show replies? ((w.pollSlot slot).1 :: ((w.pollSlot slot).2.pollSlots slots).1) = _
      rw [hReply, replies?, hRest]
      rfl

/-- There is a time that is late enough. -/
theorem exists_late (slots : List (Slot σ)) (now : Nat) :
    ∃ later, now ≤ later ∧ ∀ dc started, .waiting dc started ∈ slots → started.due ≤ later := by
  induction slots with
  | nil => exact ⟨now, Nat.le_refl _, by simp⟩
  | cons slot slots ih =>
      obtain ⟨later, hNow, hLate⟩ := ih
      cases slot with
      | answered reply => exact ⟨later, hNow, by simpa using hLate⟩
      | waiting dc started =>
          refine ⟨max later started.due, by omega, ?_⟩
          intro dc' started' hSlot
          rcases List.mem_cons.1 hSlot with hFirst | hRest
          · cases hFirst
            exact Nat.le_max_right _ _
          · exact Nat.le_trans (hLate dc' started' hRest) (Nat.le_max_left _ _)

/-- When the replies are there the wait is answered. -/
theorem poll_listings_of_some (w : World σ) (task : Nat) {dcs : List Datacenter} {slots : List (Slot σ)}
    {replies : List (Except BackendError (List Disk))} (h : replies? (w.pollSlots slots).1 = some replies) :
    w.poll task (.listings slots : Pending σ (.listings dcs)) = (.inr replies, (w.pollSlots slots).2) := by
  simp [poll, h]

end World

/-- Whether a wait is for answers of the platform. -/
def Wait.IsAsked : Wait → Prop
  | .call _ | .listings _ => True
  | _ => False

/-- A procedure that waits for nothing but answers of the platform. -/
inductive Procedure.OnlyAsks : Procedure α → Prop where
  | done (a : α) : OnlyAsks (.done a)
  | act {action : Action} {next : action.Answer → Procedure α} (h : ∀ answer, OnlyAsks (next answer)) :
      OnlyAsks (.act action next)
  | await {wait : Wait} {next : Except Abort wait.Answer → Procedure α} (hWait : wait.IsAsked)
      (h : ∀ answer, OnlyAsks (next answer)) : OnlyAsks (.await wait next)

theorem Procedure.OnlyCalls.onlyAsks {p : Procedure α} (h : p.OnlyCalls) : p.OnlyAsks := by
  induction h with
  | done a => exact .done a
  | act _ ih => exact .act ih
  | call _ ih => exact .await trivial ih

namespace Procedure.OnlyAsks

theorem bind {p : Procedure α} {f : α → Procedure β} (h : p.OnlyAsks) (hf : ∀ a, (f a).OnlyAsks) :
    (p >>= f).OnlyAsks := by
  induction h with
  | done a => exact hf a
  | act _ ih => exact .act ih
  | await hWait _ ih => exact .await hWait ih

theorem bindOperation {op : Operation α} {f : α → Operation β} (h : Procedure.OnlyAsks op.run)
    (hf : ∀ a, Procedure.OnlyAsks (f a).run) : Procedure.OnlyAsks (op >>= f).run := by
  refine h.bind ?_
  rintro (e | a)
  · exact .done _
  · exact hf a

theorem waitOperation (operation : String) {wait : Wait} (hWait : wait.IsAsked) :
    Procedure.OnlyAsks (Operation.wait operation wait).run := by
  refine .await hWait ?_
  rintro (abort | answer)
  · exact .done _
  · exact .done _

/-- What is left of such a procedure is one too. -/
theorem path {p q : Procedure α} {heard : List Exchange} (h : p.OnlyAsks) (hPath : p.Path heard q) :
    q.OnlyAsks := by
  induction hPath with
  | refl p => exact h
  | act answer _ ih =>
      cases h with
      | act h => exact ih (h answer)
  | await answer _ ih =>
      cases h with
      | await _ h => exact ih (h answer)

end Procedure.OnlyAsks

/-- Whether a context ends no wait at any time while no more tokens are cancelled. -/
def Context.Unhurried (ctx : Context) (cancelled : List Nat) : Prop :=
  ∀ now, ctx.abort? cancelled now = none

theorem Context.Endless.unhurried {ctx : Context} (h : ctx.Endless) (cancelled : List Nat) : ctx.Unhurried cancelled :=
  h cancelled

/-- The platform answers if it is given time. -/
theorem World.exists_answer [Platform σ] (w : World σ) (task : Nat) {wait : Wait} (hWait : wait.IsAsked)
    (pending : Pending σ wait) : ∃ now answer w', w.now ≤ now ∧
      ({ w with now } : World σ).poll task pending = (.inr answer, w') := by
  cases pending with
  | @call c started =>
      exact ⟨max w.now started.due, _, _, Nat.le_max_left _ _, poll_call_of_le _ task (Nat.le_max_right _ _)⟩
  | listings slots =>
      obtain ⟨now, hNow, hLate⟩ := exists_late slots w.now
      obtain ⟨replies, hReplies⟩ := exists_replies? (w := { w with now }) slots hLate
      exact ⟨now, replies, _, hNow, poll_listings_of_some _ task hReplies⟩
  | lock => exact hWait.elim
  | work due => exact hWait.elim

/-- Runs in which no more tokens are cancelled. -/
abbrev System.RunsUncancelled [Bench σ] (env : Surroundings σ) : System σ α → System σ α → Prop :=
  Relation.ReflTransGen fun s s' => System.Step env s s' ∧ s'.world.cancelled = s.world.cancelled

variable [Bench σ] {ctx : Context} {number : Nat} {threads : List (Thread σ α)}

/-- A thread is carried out by acting when it acts and letting time pass when it waits. -/
theorem Thread.exists_done (env : Surroundings σ) {t : Thread σ α} (h : t.progress.rest.OnlyAsks)
    (hNumber : number < threads.length) {w : World σ} (hCtx : t.ctx.Unhurried w.cancelled) :
    ∃ w' a, System.RunsUncancelled env ⟨w, threads.set number t⟩
      ⟨w', threads.set number ⟨t.ctx, .running (.done a)⟩⟩ := by
  obtain ⟨ctx, progress⟩ := t
  generalize hRest : progress.rest = p at h
  induction h generalizing progress w with
  | done a =>
      cases progress with
      | waiting s => cases hRest
      | running p =>
          obtain rfl : p = .done a := hRest
          exact ⟨w, a, .refl⟩
  | @act action next _ ih =>
      cases progress with
      | waiting s => cases hRest
      | running p =>
          obtain rfl : p = .act action next := hRest
          have hSame : (w.perform action).2.cancelled = w.cancelled := by cases action <;> rfl
          obtain ⟨w', a, hRuns⟩ := ih (w.perform action).1 (w := (w.perform action).2) (.running _) (hSame ▸ hCtx) rfl
          exact ⟨w', a, .head ⟨.set hNumber (.act action next), hSame⟩ hRuns⟩
  | @await wait next hWait _ ih =>
      have hWaiting (w : World σ) (hCtx : ctx.Unhurried w.cancelled) (pending : World.Pending σ wait) :
          ∃ w' a, System.RunsUncancelled env ⟨w, threads.set number ⟨ctx, .waiting ⟨wait, pending, next⟩⟩⟩
            ⟨w', threads.set number ⟨ctx, .running (.done a)⟩⟩ := by
        obtain ⟨now, answer, w₁, hNow, hPoll⟩ := w.exists_answer number hWait pending
        have hSame : w₁.cancelled = w.cancelled := by
          have hPolled := (World.sameMoment_poll { w with now } number pending).cancelled
          rwa [hPoll] at hPolled
        obtain ⟨w', a, hRuns⟩ := ih (.ok answer) (w := w₁) (.running _) (hSame ▸ hCtx) rfl
        refine ⟨w', a, .head ⟨.clock now hNow, rfl⟩ (.head ⟨.set hNumber (.answer (hCtx now) hPoll), hSame⟩ hRuns)⟩
      cases progress with
      | waiting s =>
          obtain ⟨wait', pending, next'⟩ := s
          cases hRest
          exact hWaiting w hCtx pending
      | running p =>
          obtain rfl : p = .await wait next := hRest
          have hOpened := (World.sameMoment_openWait w number wait).cancelled
          obtain ⟨w', a, hRuns⟩ := hWaiting (w.openWait number wait).2 (hOpened ▸ hCtx) (w.openWait number wait).1
          exact ⟨w', a, .head ⟨.set hNumber (.enter (hCtx w.now)), hOpened⟩ hRuns⟩

/-- A thread that will wait for nothing but calls has nothing else to do. -/
theorem Thread.Free.onlyAsks {t : Thread σ α} (h : t.Free) : t.progress.rest.OnlyAsks := by
  obtain ⟨ctx, progress⟩ := t
  cases progress with
  | running p => exact Procedure.OnlyCalls.onlyAsks h.calls
  | waiting s =>
      obtain ⟨wait, pending, next⟩ := s
      obtain ⟨⟨c, hWait⟩, hNext⟩ := h.calls
      obtain rfl : wait = .call c := hWait
      exact .await trivial fun answer => (hNext answer).onlyAsks

variable {env : Surroundings σ}

theorem Thread.Free.exists_done {t : Thread σ α} (h : t.Free) (hNumber : number < threads.length)
    (w : World σ) :
    ∃ w' a, System.Runs env ⟨w, threads.set number t⟩
      ⟨w', threads.set number ⟨t.ctx, .running (.done a)⟩⟩ := by
  obtain ⟨w', a, hRuns⟩ := Thread.exists_done env h.onlyAsks hNumber (h.endless.unhurried w.cancelled)
  exact ⟨w', a, Relation.ReflTransGen.mono (fun _ _ => And.left) _ _ hRuns⟩

namespace System

variable {s s' : System σ α}

/-- All threads of a system are free. -/
def Free (s : System σ α) : Prop :=
  ∀ t ∈ s.threads, t.Free

theorem Free.step (h : s.Free) (hStep : Step env s s') : s'.Free := by
  cases hStep with
  | clock => exact h
  | cancel => exact h
  | command => exact h
  | thread hThread hStep =>
      intro t ht
      rcases List.mem_or_eq_of_mem_set ht with hOld | rfl
      · exact h t hOld
      · exact (h _ (List.mem_of_getElem? hThread)).step hStep

theorem Free.runs (h : s.Free) (hRuns : Runs env s s') : s'.Free := by
  induction hRuns with
  | refl => exact h
  | tail _ hStep ih => exact ih.step hStep

/-- One thread after the other is carried to its end. -/
theorem Free.exists_finished (h : s.Free) : ∃ s', Runs env s s' ∧ s'.Finished := by
  have hFirst : ∀ n : Nat, ∃ s' : System σ α, Runs env s s' ∧
      s'.threads.length = s.threads.length ∧
      ∀ i < n, ∀ t : Thread σ α, s'.threads[i]? = some t → t.result?.isSome := by
    intro n
    induction n with
    | zero => exact ⟨s, .refl, rfl, fun i hi => absurd hi (Nat.not_lt_zero i)⟩
    | succ n ih =>
        obtain ⟨⟨w, threads⟩, hRuns, hLength, hDone⟩ := ih
        by_cases hNumber : n < threads.length
        · have hFree : threads[n].Free := h.runs hRuns _ (List.getElem_mem hNumber)
          obtain ⟨w', a, hRest⟩ := hFree.exists_done hNumber w
          rw [List.set_getElem_self] at hRest
          refine ⟨_, hRuns.trans hRest, by simpa using hLength, ?_⟩
          intro i hi t ht
          rcases getElem?_set_cases ht with ⟨-, rfl⟩ | ⟨hOther, ht⟩
          · rfl
          · exact hDone i (by omega) t ht
        · refine ⟨⟨w, threads⟩, hRuns, hLength, fun i hi t ht => ?_⟩
          have hThere := (List.getElem?_eq_some_iff.1 ht).1
          exact hDone i (by simp only at hThere; omega) t ht
  obtain ⟨s', hRuns, hLength, hDone⟩ := hFirst s.threads.length
  refine ⟨s', hRuns, fun t ht => ?_⟩
  obtain ⟨i, hi⟩ := List.mem_iff_getElem?.1 ht
  have hThere := (List.getElem?_eq_some_iff.1 hi).1
  exact hDone i (by omega) t hi

/-- Threads that have not begun are free if their procedures and contexts are. -/
theorem Free.start {w : World σ} {jobs : List (Context × Procedure α)}
    (h : ∀ job ∈ jobs, job.1.Endless ∧ job.2.OnlyCalls) : (System.start w jobs).Free := by
  intro t ht
  obtain ⟨job, hJob, rfl⟩ := List.mem_map.1 ht
  exact ⟨(h job hJob).1, (h job hJob).2⟩

end System

end VolumeController

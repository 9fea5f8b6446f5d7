import VolumeController.Simulation.Interleaving
/-! Threads that turn their results into others. Main result: what a function does to the results of a system is all
that it does; the runs before and after are the same, step by step and on the same worlds. -/

namespace VolumeController

variable {σ α β : Type}

/-- Turns the result that a thread will have. -/
def Progress.map [Platform σ] (f : α → β) : Progress σ α → Progress σ β
  | .running p => .running (f <$> p)
  | .waiting s => .waiting ⟨s.wait, s.pending, fun answer => f <$> s.next answer⟩

namespace Thread

variable [Platform σ] {aborts : Prop} {number : Nat} {t t' : Thread σ α} {w w' : World σ}

def map (f : α → β) (t : Thread σ α) : Thread σ β :=
  ⟨t.ctx, t.progress.map f⟩

theorem result?_map (f : α → β) (t : Thread σ α) : (t.map f).result? = t.result?.map f := by
  obtain ⟨ctx, progress⟩ := t
  cases progress with
  | waiting s => rfl
  | running p => cases p <;> rfl

theorem Step.map (h : t.Step aborts number w t' w') (f : α → β) : (t.map f).Step aborts number w (t'.map f) w' := by
  cases h with
  | act action next => exact .act action fun answer => f <$> next answer
  | refuse hAborts hAbort => exact .refuse hAborts hAbort
  | enter hAbort => exact .enter hAbort
  | abandon hAborts hAbort => exact .abandon hAborts hAbort
  | answer hAbort hPoll => exact .answer hAbort hPoll
  | linger hAbort hPoll => exact .linger hAbort hPoll

/-- A turned thread does nothing of its own. -/
theorem Step.exists_of_map {f : α → β} {u : Thread σ β} (h : (t.map f).Step aborts number w u w') :
    ∃ t', t.Step aborts number w t' w' ∧ u = t'.map f := by
  obtain ⟨ctx, progress⟩ := t
  cases progress with
  | running p =>
      cases p with
      | done a => cases h
      | act action next =>
          cases h with
          | act => exact ⟨_, .act action next, rfl⟩
      | await wait next =>
          cases h with
          | refuse hAborts hAbort => exact ⟨_, .refuse hAborts hAbort, rfl⟩
          | enter hAbort => exact ⟨_, .enter hAbort, rfl⟩
  | waiting s =>
      cases h with
      | abandon hAborts hAbort => exact ⟨_, .abandon hAborts hAbort, rfl⟩
      | answer hAbort hPoll => exact ⟨_, .answer hAbort hPoll, rfl⟩
      | linger hAbort hPoll => exact ⟨_, .linger hAbort hPoll, rfl⟩

end Thread

namespace System

def map [Platform σ] (f : α → β) (s : System σ α) : System σ β :=
  ⟨s.world, s.threads.map (Thread.map f)⟩

theorem result?_map [Platform σ] (f : α → β) (s : System σ α) (number : Nat) :
    (s.map f).result? number = (s.result? number).map f := by
  simp only [result?, map, List.getElem?_map]
  cases s.threads[number]? with
  | none => rfl
  | some t => exact t.result?_map f

variable [Bench σ] {env : Surroundings σ} {s s' : System σ α}

theorem Step.map (h : Step env s s') (f : α → β) : Step env (s.map f) (s'.map f) := by
  cases h with
  | @thread number t t' w' hThread hStep =>
      have hMapped := Step.thread (s := s.map f) (by rw [System.map, List.getElem?_map, hThread]; rfl) (hStep.map f)
      rwa [System.map, ← List.map_set] at hMapped
  | clock now hNow => exact .clock (s := s.map f) now hNow
  | cancel token => exact .cancel (s := s.map f) token
  | command c hCommand => exact .command (s := s.map f) c hCommand

theorem Step.exists_of_map {f : α → β} {u : System σ β} (h : Step env (s.map f) u) :
    ∃ s', Step env s s' ∧ u = s'.map f := by
  cases h with
  | @thread number t u' w' hThread hStep =>
      rw [System.map, List.getElem?_map] at hThread
      obtain ⟨t, hHere, rfl⟩ := Option.map_eq_some_iff.1 hThread
      obtain ⟨t', hMove, rfl⟩ := hStep.exists_of_map
      refine ⟨_, .thread hHere hMove, ?_⟩
      rw [System.map, System.map, List.map_set]
  | clock now hNow => exact ⟨_, .clock now hNow, rfl⟩
  | cancel token => exact ⟨_, .cancel token, rfl⟩
  | command c hCommand => exact ⟨_, .command c hCommand, rfl⟩

theorem Runs.map (h : Runs env s s') (f : α → β) : Runs env (s.map f) (s'.map f) := by
  induction h with
  | refl => exact .refl
  | tail _ hLast ih => exact ih.tail (hLast.map f)

theorem Runs.exists_of_map {f : α → β} {u : System σ β} (h : Runs env (s.map f) u) :
    ∃ s', Runs env s s' ∧ u = s'.map f := by
  induction h with
  | refl => exact ⟨s, .refl, rfl⟩
  | tail _ hLast ih =>
      obtain ⟨s', hRuns, rfl⟩ := ih
      obtain ⟨next, hNext, rfl⟩ := hLast.exists_of_map
      exact ⟨next, hRuns.tail hNext, rfl⟩

end System

end VolumeController

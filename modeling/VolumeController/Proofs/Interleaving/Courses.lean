import VolumeController.Proofs.Interleaving.Chronicles
/-! Courses: runs of which every moment is kept. Main results: whatever holds along runs holds at every moment of a
course, and every run is the course of some moments. -/

namespace VolumeController

variable {σ α : Type}

theorem Thread.Step.mono [Platform σ] {aborts aborts' : Prop} {number : Nat} {t t' : Thread σ α} {w w' : World σ}
    (h : t.Step aborts number w t' w') (hAborts : aborts → aborts') : t.Step aborts' number w t' w' := by
  cases h with
  | act action next => exact .act action next
  | refuse hAllowed hAbort => exact .refuse (hAborts hAllowed) hAbort
  | enter hAbort => exact .enter hAbort
  | abandon hAllowed hAbort => exact .abandon (hAborts hAllowed) hAbort
  | answer hAbort hPoll => exact .answer hAbort hPoll
  | linger hAbort hPoll => exact .linger hAbort hPoll

/-- Whether surroundings allow no more than others. -/
structure Surroundings.Within [Bench σ] (env env' : Surroundings σ) : Prop where
  aborts : env.aborts → env'.aborts
  commands : ∀ c, env.commands c → env'.commands c

theorem Chronicle.Step.mono [Bench σ] {env env' : Surroundings σ} {c c' : Chronicle σ α} (h : Step env c c')
    (hEnv : env.Within env') : Step env' c c' := by
  cases h with
  | turn hThread hStep => exact .turn hThread (hStep.mono hEnv.aborts)
  | clock now hNow => exact .clock now hNow
  | cancel token => exact .cancel token
  | command command hCommand => exact .command command (hEnv.commands command hCommand)

/-- Whether a thread has taken a step and has not ended. -/
structure Chronicle.UnderWay [Platform σ] (c : Chronicle σ α) (number : Nat) : Prop where
  begun : c.HasBegun number
  unfinished : c.result? number = none

/-- The moments of a run, the latest first. -/
inductive Course [Bench σ] (env : Surroundings σ) (first : Chronicle σ α) : List (Chronicle σ α) → Prop where
  | begin : Course env first [first]
  | step {c c' : Chronicle σ α} {earlier : List (Chronicle σ α)} (h : Course env first (c :: earlier))
      (hStep : Chronicle.Step env c c') : Course env first (c' :: c :: earlier)

namespace Course

variable [Bench σ] {env env' : Surroundings σ} {first c m : Chronicle σ α}
  {history later earlier : List (Chronicle σ α)}

theorem mono (h : Course env first history) (hEnv : env.Within env') : Course env' first history := by
  induction h with
  | begin => exact .begin
  | step _ hStep ih => exact .step ih (hStep.mono hEnv)

/-- Every moment is reached. -/
theorem runs (h : Course env first history) (hMoment : m ∈ history) :
    Chronicle.Runs env (fun _ _ => True) first m := by
  induction h generalizing m with
  | begin =>
      obtain rfl := List.mem_singleton.1 hMoment
      exact .refl
  | @step c c' earlier _ hStep ih =>
      rcases List.mem_cons.1 hMoment with rfl | hEarlier
      · exact (ih List.mem_cons_self).tail ⟨hStep, trivial⟩
      · exact ih hEarlier

/-- What came before a moment is a course too. -/
theorem of_append (h : Course env first (later ++ m :: earlier)) : Course env first (m :: earlier) := by
  induction later with
  | nil => exact h
  | cons c later ih =>
      obtain ⟨next, rest, hRest⟩ : ∃ next rest, later ++ m :: earlier = next :: rest :=
        List.exists_cons_of_ne_nil (List.append_ne_nil_of_right_ne_nil later (List.cons_ne_nil m earlier))
      rw [List.cons_append, hRest] at h
      cases h with
      | step h => exact ih (hRest ▸ h)

end Course

/-- The moments of a run. -/
theorem Chronicle.Runs.exists_course [Bench σ] {env : Surroundings σ} {kind : Chronicle σ α → Chronicle σ α → Prop}
    {first c : Chronicle σ α} (h : Runs env kind first c) : ∃ earlier, Course env first (c :: earlier) := by
  induction h with
  | refl => exact ⟨[], .begin⟩
  | tail _ hLast ih =>
      obtain ⟨earlier, hCourse⟩ := ih
      exact ⟨_, .step hCourse hLast.1⟩

end VolumeController

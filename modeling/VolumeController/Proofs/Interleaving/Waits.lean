import VolumeController.Proofs.Interleaving.Chronicles
/-! What a thread has waited for: the waits that ended, and the one that it is at. Main results: a thread that keeps to
a dialogue has waited for nothing but what the dialogue allows, and one that is only ever allowed to wait for the
platform can be carried to its end. -/

namespace VolumeController

variable {σ α : Type}

/-- Whatever was heard on a path was asked for in keeping with the dialogue. -/
theorem Procedure.Path.asks {D : Dialogue} {goal : List Exchange → α → Prop} {p q : Procedure α}
    {path told before : List Exchange} {x : Exchange} (h : p.Path path q) (hTold : ∀ x ∈ path, D.told x)
    (hConverses : p.Converses D goal told) (hPrefix : before ++ [x] <+: path) : D.asks (told ++ before) x.wait := by
  induction h generalizing told before with
  | refl p =>
      exact absurd (List.prefix_nil.1 hPrefix) (List.append_ne_nil_of_right_ne_nil before (List.cons_ne_nil x []))
  | act answer _ ih => exact ih hTold (hConverses answer) hPrefix
  | await answer _ ih =>
      obtain ⟨hFirst, hRest⟩ := List.forall_mem_cons.1 hTold
      cases before with
      | nil =>
          obtain ⟨rfl, -⟩ := List.cons_prefix_cons.1 hPrefix
          rw [List.append_nil]
          exact hConverses.1
      | cons y before =>
          obtain ⟨rfl, hLater⟩ := List.cons_prefix_cons.1 hPrefix
          have hAsks := ih hRest (hConverses.2 answer hFirst) hLater
          rwa [List.append_assoc] at hAsks

namespace Thread

variable [Platform σ] {aborts : Prop} {number : Nat} {t t' : Thread σ α} {w w' : World σ}

/-- The wait that a thread is at. -/
def open? (t : Thread σ α) : Option Wait :=
  match t.progress with
  | .running _ => none
  | .waiting s => some s.wait

/-- Where no context ends a wait, no thread hears of an abort. -/
theorem Step.hears_ne_error (h : t.Step aborts number w t' w') (hAborts : ¬ aborts) (wait : Wait) (abort : Abort) :
    t.hears number w ≠ some ⟨wait, .error abort⟩ := by
  intro hHears
  have hAbort := abort?_of_hears hHears
  cases h with
  | act => cases hHears
  | refuse hAllowed => exact hAborts hAllowed
  | abandon hAllowed => exact hAborts hAllowed
  | enter hQuiet => cases hQuiet.symm.trans hAbort
  | answer hQuiet => cases hQuiet.symm.trans hAbort
  | linger hQuiet => cases hQuiet.symm.trans hAbort

end Thread

namespace Chronicle

/-- What a thread has waited for so far, in order. -/
def asked [Platform σ] (c : Chronicle σ α) (number : Nat) : List Wait :=
  (c.heardBy number).map (·.wait) ++ (c.system.threads[number]?.bind Thread.open?).toList

theorem asked_of_result [Platform σ] {c : Chronicle σ α} {number : Nat} {a : α} (h : c.result? number = some a) :
    c.asked number = (c.heardBy number).map (·.wait) := by
  obtain ⟨⟨ctx, p | s⟩, hThread, hEnd⟩ := Option.bind_eq_some_iff.1 h
  · rw [asked, hThread]
    exact List.append_nil _
  · cases hEnd

variable [Bench σ] {env : Surroundings σ} {kind : Chronicle σ α → Chronicle σ α → Prop} {c c' : Chronicle σ α}
  {number : Nat} {w : World σ} {jobs : List (Context × Procedure α)} {job : Context × Procedure α} {D : Dialogue}
  {goal : List Exchange → α → Prop}

theorem Runs.answer_ne_error_of_calm (h : Runs env kind (start w jobs) c) (hAborts : ¬ env.aborts) (number : Nat) :
    ∀ x ∈ c.heardBy number, ∀ abort, x.answer ≠ .error abort := by
  induction h with
  | refl => exact fun x hx => (List.not_mem_nil hx).elim
  | tail _ hLast ih =>
      rcases hLast.1.own_cases number with ⟨-, hHeard⟩ | ⟨t, t', w', -, hStep, -, hHeard⟩
      · rwa [hHeard]
      · rw [hHeard]
        refine List.forall_mem_append.2 ⟨ih, fun x hx abort hAnswer => ?_⟩
        obtain ⟨wait, answer⟩ := x
        obtain rfl : answer = .error abort := hAnswer
        exact hStep.hears_ne_error hAborts wait abort (Option.mem_toList.1 hx)

/-- Every wait of a thread was allowed by what the thread had heard before. -/
theorem Runs.asks_of_asked (h : Runs env kind (start w jobs) c) (hJob : jobs[number]? = some job)
    (hConverses : job.2.Converses D goal []) (hTold : ∀ x ∈ c.heardBy number, D.told x) {before : List Wait}
    {wait : Wait} (hPrefix : before ++ [wait] <+: c.asked number) :
    ∃ told, told.map (·.wait) = before ∧ D.asks told wait := by
  obtain ⟨t, hThread, -⟩ := h.exists_thread hJob
  have hPath := h.path hJob hThread
  have hHeard (hEnded : before ++ [wait] <+: (c.heardBy number).map (·.wait)) :
      ∃ told, told.map (·.wait) = before ∧ D.asks told wait := by
    obtain ⟨part, hPart, hSame⟩ := List.prefix_map_iff.1 hEnded
    obtain ⟨told, last, rfl, hBefore, hLast⟩ := List.map_eq_append_iff.1 hSame.symm
    obtain ⟨x, rfl, rfl⟩ := List.map_eq_singleton_iff.1 hLast
    exact ⟨told, hBefore, hPath.asks hTold hConverses hPart⟩
  rw [asked, hThread] at hPrefix
  obtain ⟨ctx, p | s⟩ := t
  · exact hHeard (by simpa only [Option.bind_some, Thread.open?, Option.toList_none, List.append_nil] using hPrefix)
  · rcases List.prefix_concat_iff.1 hPrefix with hWhole | hEnded
    · obtain ⟨rfl, hLast⟩ := List.append_inj' hWhole rfl
      cases hLast
      exact ⟨c.heardBy number, rfl, (hPath.converses hTold hConverses).1⟩
    · exact hHeard hEnded

/-- A thread that is allowed to wait for nothing but the platform, and is told nothing else than it may be, can be
carried to its end where nothing ends its waits. -/
theorem Runs.exists_end_of_converses (h : Runs env kind (start w jobs) c) (hJob : jobs[number]? = some job)
    (hCtx : job.1.Endless) (hConverses : job.2.Converses D goal [])
    (hAsks : ∀ told wait, D.asks told wait → wait.IsAsked)
    (hTold : ∀ c', Runs env (fun _ _ => True) (start w jobs) c' → ∀ x ∈ c'.heardBy number, D.told x) :
    ∃ c' a, Runs env (fun _ _ => True) c c' ∧ c'.result? number = some a := by
  have hStarted : Runs env (fun _ _ => True) (start w jobs) c := h.mono fun _ _ _ => trivial
  clear h
  obtain ⟨t, hThread, hSame⟩ := hStarted.exists_thread hJob
  obtain ⟨ctx, progress⟩ := t
  obtain rfl : ctx = job.1 := hSame
  -- The induction is on what is left of the procedure; every case takes the thread one or two turns further.
  have hTurn {c : Chronicle σ α} {t t' : Thread σ α} {w' : World σ} (hThread : c.system.threads[number]? = some t)
      (hStep : t.Step env.aborts number c.system.world t' w') :
      ∃ c', Step env c c' ∧ c'.system.world = w' ∧ c'.system.threads[number]? = some t' :=
    ⟨_, .turn hThread hStep, rfl, List.getElem?_set_self (List.getElem?_eq_some_iff.1 hThread).1⟩
  generalize hRest : progress.rest = p at *
  induction p generalizing c progress with
  | done a =>
      cases progress with
      | waiting s => cases hRest
      | running p =>
          obtain rfl : p = .done a := hRest
          exact ⟨c, a, .refl, System.result?_of_thread hThread⟩
  | act action next ih =>
      cases progress with
      | waiting s => cases hRest
      | running p =>
          obtain rfl : p = .act action next := hRest
          obtain ⟨c₁, hStep, -, hThread₁⟩ := hTurn hThread (.act action next)
          obtain ⟨c', a, hMore, hResult⟩ := ih _ (hStarted.tail ⟨hStep, trivial⟩) _ hThread₁ rfl
          exact ⟨c', a, .head ⟨hStep, trivial⟩ hMore, hResult⟩
  | await wait next ih =>
      have hWaiting {c : Chronicle σ α} (hStarted : Runs env (fun _ _ => True) (start w jobs) c)
          {pending : World.Pending σ wait}
          (hThread : c.system.threads[number]? = some ⟨job.1, .waiting ⟨wait, pending, next⟩⟩) :
          ∃ c' a, Runs env (fun _ _ => True) c c' ∧ c'.result? number = some a := by
        have hAllowed := (hStarted.path hJob hThread).converses (hTold c hStarted) hConverses
        obtain ⟨now, answer, w₁, hNow, hPoll⟩ :=
          c.system.world.exists_answer number (hAsks _ _ hAllowed.1) pending
        have hClock : Step env c _ := .clock now hNow
        obtain ⟨c₁, hStep, -, hThread₁⟩ :=
          hTurn (c := ⟨{ c.system with world := { c.system.world with now } }, c.turns⟩) hThread
            (.answer (hCtx _ _) hPoll)
        obtain ⟨c', a, hMore, hResult⟩ := ih (.ok answer)
          ((hStarted.tail ⟨hClock, trivial⟩).tail ⟨hStep, trivial⟩) _ hThread₁ rfl
        exact ⟨c', a, .head ⟨hClock, trivial⟩ (.head ⟨hStep, trivial⟩ hMore), hResult⟩
      cases progress with
      | waiting s =>
          obtain ⟨wait', pending, next'⟩ := s
          cases hRest
          exact hWaiting hStarted hThread
      | running p =>
          obtain rfl : p = .await wait next := hRest
          obtain ⟨c₁, hStep, -, hThread₁⟩ := hTurn hThread (.enter (hCtx _ _))
          obtain ⟨c', a, hMore, hResult⟩ := hWaiting (hStarted.tail ⟨hStep, trivial⟩) hThread₁
          exact ⟨c', a, .head ⟨hStep, trivial⟩ hMore, hResult⟩

end Chronicle

end VolumeController

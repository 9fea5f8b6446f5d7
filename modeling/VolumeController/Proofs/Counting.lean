import VolumeController.Proofs.Contracts
import VolumeController.Proofs.Interleaving.Schedule
import VolumeController.Proofs.Metrics
import VolumeController.Proofs.Uncounted
/-! Procedures that are counted. A procedure accounts for its result if it ends as soon as it has counted, with a
result of just that label, and without having counted only with a result that has none. Main result: where every
thread accounts for its result, metrics record at every moment the labels of the results that are there. -/

namespace VolumeController

variable {σ α β : Type}

/-- What an action counts under, if it counts at all. -/
def Action.label? : Action → Option Label
  | .observe operation code => some (operation, Metrics.outcomeName code)
  | _ => none

theorem Action.label?_of_not_counts {action : Action} (h : ¬ action.Counts) : action.label? = none := by
  cases action with
  | observe operation code => exact absurd trivial h
  | _ => rfl

/-- Whether a procedure that has just counted under a label, or under none, accounts for its result. -/
def Procedure.Accounts (label : α → Option Label) : Procedure α → Option Label → Prop
  | .done a, just => label a = just
  | .act action next, just => just = none ∧ ∀ answer, Accounts label (next answer) action.label?
  | .await _ next, just => just = none ∧ ∀ answer, Accounts label (next answer) none

namespace Procedure

variable {label : α → Option Label}

/-- What follows a part that counts nothing. -/
theorem Uncounted.accounts_bind {p : Procedure β} {goal : β → Prop} {f : β → Procedure α} (h : p.Uncounted goal)
    (hf : ∀ b, goal b → (f b).Accounts label none) : (p >>= f).Accounts label none := by
  induction p with
  | done b => exact hf b h
  | act action next ih =>
      refine ⟨rfl, fun answer => ?_⟩
      rw [Action.label?_of_not_counts h.1]
      exact ih answer (h.2 answer)
  | await wait next ih => exact ⟨rfl, fun answer => ih answer (h answer)⟩

theorem Accounts.map {p : Procedure β} {f : β → α} {just : Option Label}
    (h : p.Accounts (fun b => label (f b)) just) : (f <$> p).Accounts label just := by
  induction p generalizing just with
  | done b => exact h
  | act action next ih => exact ⟨h.1, fun answer => ih answer (h.2 answer)⟩
  | await wait next ih => exact ⟨h.1, fun answer => ih answer (h.2 answer)⟩

end Procedure

/-! Steps of a thread. -/

namespace World

variable (w : World σ)

theorem metrics_giveUp (task : Nat) (wait : Wait) : (w.giveUp task wait).metrics = w.metrics := by
  cases wait <;> rfl

variable [Platform σ]

theorem metrics_poll (task : Nat) {wait : Wait} (pending : Pending σ wait) :
    (w.poll task pending).2.metrics = w.metrics := by
  obtain ⟨platform, log, h⟩ := w.exists_poll_eq task pending
  rw [h]

theorem metrics_openWait (task : Nat) (wait : Wait) : (w.openWait task wait).2.metrics = w.metrics := by
  cases wait with
  | listings dcs =>
      obtain ⟨platform, log, calls, h⟩ := w.exists_startSlots_eq dcs
      rw [openWait, h]
  | _ => rfl

end World

namespace Thread

variable [Platform σ] {label : α → Option Label}

/-- The label of the result of a thread that has ended. -/
def label? (label : α → Option Label) (t : Thread σ α) : Option Label :=
  t.result?.bind label

/-- Whether a thread accounts for its result. -/
def Accounts (label : α → Option Label) (t : Thread σ α) : Prop :=
  t.progress.rest.Accounts label (t.label? label)

theorem label?_of_accounts {p : Procedure α} {just : Option Label} (h : p.Accounts label just) (ctx : Context) :
    (⟨ctx, .running p⟩ : Thread σ α).label? label = just := by
  cases p with
  | done a => exact h
  | act action next => exact h.1.symm
  | await wait next => exact h.1.symm

theorem accounts_of_procedure {p : Procedure α} {just : Option Label} (h : p.Accounts label just) (ctx : Context) :
    (⟨ctx, .running p⟩ : Thread σ α).Accounts label := by
  rw [Accounts, label?_of_accounts h]
  exact h

/-- What a step does to metrics: nothing, unless it ends a thread whose result has a label; then it counts this
label. -/
def Counted (label : α → Option Label) (w : World σ) (t' : Thread σ α) (w' : World σ) : Prop :=
  t'.label? label = none ∧ w'.metrics = w.metrics ∨
    ∃ operation code, t'.label? label = some (operation, Metrics.outcomeName code) ∧
      w'.metrics = w.metrics.observe operation code

/-- A thread that accounts for its result goes on doing so, and what it counts by a step is what it ends with. -/
theorem Step.accounts {aborts : Prop} {number : Nat} {t t' : Thread σ α} {w w' : World σ}
    (h : t.Step aborts number w t' w') (hAccounts : t.Accounts label) :
    t.label? label = none ∧ t'.Accounts label ∧ Counted label w t' w' := by
  -- After the end of a wait nothing has been counted yet.
  have hWaited {ctx : Context} {p : Procedure α} (hRest : p.Accounts label none) {v : World σ}
      (hSame : v.metrics = w.metrics) :
      (⟨ctx, .running p⟩ : Thread σ α).Accounts label ∧ Counted label w ⟨ctx, .running p⟩ v :=
    ⟨accounts_of_procedure hRest ctx, .inl ⟨label?_of_accounts hRest ctx, hSame⟩⟩
  cases h with
  | act action next =>
      have hRest := hAccounts.2 (w.perform action).1
      refine ⟨rfl, accounts_of_procedure hRest _, ?_⟩
      rw [Counted, label?_of_accounts hRest]
      cases action with
      | observe operation code => exact .inr ⟨operation, code, rfl, rfl⟩
      | _ => exact .inl ⟨rfl, rfl⟩
  | refuse _ _ => exact ⟨rfl, hWaited (hAccounts.2 _) rfl⟩
  | enter _ => exact ⟨rfl, hAccounts, .inl ⟨rfl, w.metrics_openWait number _⟩⟩
  | abandon _ _ => exact ⟨rfl, hWaited (hAccounts.2 _) (w.metrics_giveUp number _)⟩
  | @answer _ _ _ s answer _ hPoll =>
      refine ⟨rfl, hWaited (hAccounts.2 _) ?_⟩
      rw [← w.metrics_poll number s.pending, hPoll]
  | @linger _ _ _ s pending _ hPoll =>
      refine ⟨rfl, hAccounts, .inl ⟨rfl, ?_⟩⟩
      rw [← w.metrics_poll number s.pending, hPoll]

end Thread

/-! Runs. -/

/-- A list taken apart where one of its places is set. -/
theorem exists_set_eq {l : List α} {n : Nat} {a : α} (h : l[n]? = some a) :
    ∃ before after, l = before ++ a :: after ∧ ∀ a', l.set n a' = before ++ a' :: after := by
  obtain ⟨hn, rfl⟩ := List.getElem?_eq_some_iff.1 h
  refine ⟨l.take n, l.drop (n + 1), ?_, fun a' => ?_⟩
  · rw [← List.drop_eq_getElem_cons hn, List.take_append_drop]
  · rw [List.set_eq_take_append_cons_drop, if_pos hn]

namespace System

variable {label : α → Option Label}

/-- The results that are there. -/
def results [Platform σ] (s : System σ α) : List α :=
  s.threads.filterMap Thread.result?

/-- Whether all threads account for their results, and metrics record the labels of those that are there. -/
structure Accounts [Platform σ] (label : α → Option Label) (s : System σ α) : Prop where
  threads : ∀ t ∈ s.threads, t.Accounts label
  metrics : s.world.metrics.Records (s.results.filterMap label)

theorem filterMap_results [Platform σ] (label : α → Option Label) (s : System σ α) :
    s.results.filterMap label = s.threads.filterMap (Thread.label? label) :=
  List.filterMap_filterMap

theorem Accounts.start [Platform σ] {w : World σ} {jobs : List (Context × Procedure α)} (hNew : w.metrics = {})
    (hJobs : ∀ job ∈ jobs, job.2.Accounts label none) : (start w jobs).Accounts label where
  threads t hThread := by
    obtain ⟨job, hJob, rfl⟩ := List.mem_map.1 hThread
    exact Thread.accounts_of_procedure (hJobs job hJob) job.1
  metrics := by
    have hNone : (System.start w jobs).results.filterMap label = [] := by
      rw [filterMap_results]
      refine List.filterMap_eq_nil_iff.2 fun t hThread => ?_
      obtain ⟨job, hJob, rfl⟩ := List.mem_map.1 hThread
      exact Thread.label?_of_accounts (hJobs job hJob) job.1
    rw [hNone, System.start, hNew]
    exact .empty

variable [Bench σ] {env : Surroundings σ} {s s' : System σ α}

theorem Step.accounts (h : Step env s s') (hAccounts : s.Accounts label) : s'.Accounts label := by
  cases h with
  | clock now hNow => exact ⟨hAccounts.threads, hAccounts.metrics⟩
  | cancel token => exact ⟨hAccounts.threads, hAccounts.metrics⟩
  | command c hCommand => exact ⟨hAccounts.threads, hAccounts.metrics⟩
  | @thread number t t' w' hThread hStep =>
      obtain ⟨hBefore, hAfter, hCounted⟩ := hStep.accounts (hAccounts.threads t (List.mem_of_getElem? hThread))
      refine ⟨fun u hu => ?_, ?_⟩
      · rcases List.mem_or_eq_of_mem_set hu with hOld | rfl
        · exact hAccounts.threads u hOld
        · exact hAfter
      · obtain ⟨before, after, hList, hSet⟩ := exists_set_eq hThread
        have hRecords := hAccounts.metrics
        rw [filterMap_results, hList, List.filterMap_append, List.filterMap_cons_none hBefore] at hRecords
        rw [filterMap_results, hSet, List.filterMap_append]
        rcases hCounted with ⟨hNone, hSame⟩ | ⟨operation, code, hSome, hMore⟩
        · rw [List.filterMap_cons_none hNone]
          exact hSame ▸ hRecords
        · rw [List.filterMap_cons_some hSome]
          exact hMore ▸ (hRecords.observe operation code).perm List.perm_middle.symm

/-- At every moment metrics record the results that are there. -/
theorem Runs.accounts (h : Runs env s s') (hAccounts : s.Accounts label) : s'.Accounts label := by
  induction h with
  | refl => exact hAccounts
  | tail _ hStep ih => exact hStep.accounts ih

/-- A procedure that is over has its result at every moment. -/
theorem Runs.result?_of_done {w : World σ} {jobs : List (Context × Procedure α)} (h : Runs env (System.start w jobs) s)
    {number : Nat} {ctx : Context} {a : α} (hJob : jobs[number]? = some (ctx, .done a)) :
    s.result? number = some a := by
  obtain ⟨t, path, hThread, hPath⟩ := h.exists_thread_path hJob
  rw [result?_of_thread hThread]
  obtain ⟨ctx', p | suspended⟩ := t
  · cases hPath
    rfl
  · cases hPath

end System

end VolumeController

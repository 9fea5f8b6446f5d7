import VolumeController.Proofs.Interleaving.Dialogues
import VolumeController.Proofs.Interleaving.Progress
import VolumeController.Proofs.Interleaving.Rules
import VolumeController.Proofs.Interleaving.Timely
/-! Chronicles: runs in which it is written down who takes a step and what is heard by it. Nothing is added to the
runs themselves. Main result: what a thread has heard is told by the chronicle, in the order of its waits, so that
a thread which keeps to a dialogue ends in keeping with what was written down. -/

namespace VolumeController

variable {σ α : Type}

/-- A step of a thread: whose it was, and how a wait ended with it, if one did. -/
structure Turn where
  number : Nat
  heard : Option Exchange

/-- What a thread heard in some turns, in the order of its waits. The latest turn comes first. -/
def Turn.heardBy (number : Nat) : List Turn → List Exchange
  | [] => []
  | turn :: earlier => heardBy number earlier ++ if turn.number = number then turn.heard.toList else []

namespace Turn

variable {number : Nat} {turns : List Turn} {x : Exchange}

theorem mem_heardBy : x ∈ heardBy number turns ↔ ⟨number, some x⟩ ∈ turns := by
  induction turns with
  | nil => simp [heardBy]
  | cons turn turns ih =>
      obtain ⟨number', heard⟩ := turn
      rw [heardBy, List.mem_append, ih, List.mem_cons, Turn.mk.injEq, or_comm]
      refine or_congr_left ?_
      by_cases hNumber : number' = number
      · rw [if_pos hNumber, Option.mem_toList]
        exact ⟨fun h => ⟨hNumber.symm, h.symm⟩, fun h => h.2.symm⟩
      · rw [if_neg hNumber]
        exact ⟨fun h => (List.not_mem_nil h).elim, fun h => absurd h.1.symm hNumber⟩

theorem heardBy_cons_of_ne {turn : Turn} (h : turn.number ≠ number) :
    heardBy number (turn :: turns) = heardBy number turns := by
  rw [heardBy, if_neg h, List.append_nil]

theorem heardBy_cons_self (heard : Option Exchange) :
    heardBy number (⟨number, heard⟩ :: turns) = heardBy number turns ++ heard.toList := by
  rw [heardBy, if_pos rfl]

end Turn

/-- How a wait of a thread ends with its next step, if one does. -/
def Thread.hears [Platform σ] (t : Thread σ α) (number : Nat) (w : World σ) : Option Exchange :=
  match t.progress with
  | .running (.await wait _) => (w.abort? t.ctx).map fun abort => ⟨wait, .error abort⟩
  | .running _ => none
  | .waiting s =>
    match w.abort? t.ctx, (w.poll number s.pending).1 with
    | some abort, _ => some ⟨s.wait, .error abort⟩
    | none, .inr answer => some ⟨s.wait, .ok answer⟩
    | none, .inl _ => none

namespace Thread

variable [Platform σ] {aborts : Prop} {number : Nat} {t t' : Thread σ α} {w w' : World σ}

/-- A step goes along the path of what is heard by it. -/
theorem Step.path (h : t.Step aborts number w t' w') :
    t.progress.rest.Path (t.hears number w).toList t'.progress.rest := by
  cases h with
  | act action next => exact .act _ (.refl _)
  | refuse _ hAbort =>
      simp only [hears, hAbort, Option.map_some]
      exact .await _ (.refl _)
  | enter hAbort =>
      simp only [hears, hAbort, Option.map_none]
      exact .refl _
  | abandon _ hAbort =>
      simp only [hears, hAbort]
      exact .await _ (.refl _)
  | answer hAbort hPoll =>
      simp only [hears, hAbort, hPoll]
      exact .await _ (.refl _)
  | linger hAbort hPoll =>
      simp only [hears, hAbort, hPoll]
      exact .refl _

/-- Only the wait that a thread is at ends. -/
theorem rest_of_hears {x : Exchange} (h : t.hears number w = some x) :
    ∃ next, t.progress.rest = .await x.wait next := by
  obtain ⟨ctx, p | s⟩ := t
  · cases p with
    | done a => cases h
    | act action next => cases h
    | await wait next =>
        obtain ⟨abort, -, rfl⟩ := Option.map_eq_some_iff.1 h
        exact ⟨next, rfl⟩
  · simp only [hears] at h
    split at h <;> cases h <;> exact ⟨s.next, rfl⟩

/-- An abort is heard only from a context that ends waits. -/
theorem abort?_of_hears {wait : Wait} {abort : Abort} (h : t.hears number w = some ⟨wait, .error abort⟩) :
    w.abort? t.ctx = some abort := by
  obtain ⟨ctx, p | s⟩ := t
  · cases p with
    | done a => cases h
    | act action next => cases h
    | await wait' next =>
        obtain ⟨abort', hAbort, hHeard⟩ := Option.map_eq_some_iff.1 h
        cases hHeard
        exact hAbort
  · simp only [hears] at h
    split at h
    · rename_i hAbort
      cases h
      exact hAbort
    · cases h
    · cases h

end Thread

/-- A system, and the turns that its threads have taken so far, the latest first. -/
structure Chronicle (σ : Type) [Platform σ] (α : Type) where
  system : System σ α
  turns : List Turn

/-- Carries out a thread alone until it ends or has to wait. -/
def System.advance [Platform σ] (s : System σ α) (number : Nat) : System σ α :=
  match s.threads[number]? with
  | some ⟨ctx, .running p⟩ =>
    let (rest, w) := p.advance number ctx s.world
    ⟨w, s.threads.set number (.ofRun ctx rest)⟩
  | _ => s

namespace Chronicle

section

variable [Platform σ]

/-- Threads that are about to begin. -/
def start (w : World σ) (jobs : List (Context × Procedure α)) : Chronicle σ α :=
  ⟨System.start w jobs, []⟩

/-- The platform as it is now. -/
def platform (c : Chronicle σ α) : σ :=
  c.system.world.platform

/-- The result of a thread, once it has ended. -/
def result? (c : Chronicle σ α) (number : Nat) : Option α :=
  c.system.result? number

/-- What a thread has heard so far. -/
def heardBy (c : Chronicle σ α) (number : Nat) : List Exchange :=
  Turn.heardBy number c.turns

/-- Whether a thread has taken a step. -/
def HasBegun (c : Chronicle σ α) (number : Nat) : Prop :=
  ∃ turn ∈ c.turns, turn.number = number

end

variable [Bench σ] {env : Surroundings σ} {kind kind' : Chronicle σ α → Chronicle σ α → Prop}

/-- One step of the system, written down if it is a thread's. -/
inductive Step (env : Surroundings σ) : Chronicle σ α → Chronicle σ α → Prop where
  | turn {c : Chronicle σ α} {number : Nat} {t t' : Thread σ α} {w' : World σ}
      (hThread : c.system.threads[number]? = some t)
      (hStep : t.Step env.aborts number c.system.world t' w') :
      Step env c ⟨⟨w', c.system.threads.set number t'⟩, ⟨number, t.hears number c.system.world⟩ :: c.turns⟩
  | clock {c : Chronicle σ α} (now : Nat) (hNow : c.system.world.now ≤ now) :
      Step env c ⟨{ c.system with world := { c.system.world with now } }, c.turns⟩
  | cancel {c : Chronicle σ α} (token : Nat) :
      Step env c ⟨{ c.system with
        world := { c.system.world with cancelled := token :: c.system.world.cancelled } }, c.turns⟩
  | command {c : Chronicle σ α} (command : Bench.Command σ) (hCommand : env.commands command) :
      Step env c ⟨{ c.system with
        world := { c.system.world with platform := (Bench.obey command c.platform).2 } }, c.turns⟩

/-- Any number of steps of some kind. -/
abbrev Runs (env : Surroundings σ) (kind : Chronicle σ α → Chronicle σ α → Prop) :
    Chronicle σ α → Chronicle σ α → Prop :=
  Relation.ReflTransGen fun c c' => Step env c c' ∧ kind c c'

/-- Every step of a system can be written down. -/
theorem exists_step {s s' : System σ α} (h : System.Step env s s') (turns : List Turn) :
    ∃ turns', Step env ⟨s, turns⟩ ⟨s', turns'⟩ := by
  cases h with
  | thread hThread hStep => exact ⟨_, .turn hThread hStep⟩
  | clock now hNow => exact ⟨_, .clock now hNow⟩
  | cancel token => exact ⟨_, .cancel token⟩
  | command command hCommand => exact ⟨_, .command command hCommand⟩

theorem exists_runs {within : System σ α → System σ α → Prop} {s s' : System σ α}
    (h : Relation.ReflTransGen (fun s s' => System.Step env s s' ∧ within s s') s s') (turns : List Turn) :
    ∃ turns', Runs env (fun c c' => within c.system c'.system) ⟨s, turns⟩ ⟨s', turns'⟩ := by
  induction h with
  | refl => exact ⟨turns, .refl⟩
  | tail _ hLast ih =>
      obtain ⟨turns', hRuns⟩ := ih
      obtain ⟨turns'', hStep⟩ := exists_step hLast.1 turns'
      exact ⟨turns'', hRuns.tail ⟨hStep, hLast.2⟩⟩

/-- Every run of a system can be written down. -/
theorem exists_runs_of_system {s s' : System σ α} (h : System.Runs env s s') (turns : List Turn) :
    ∃ turns', Runs env (fun _ _ => True) ⟨s, turns⟩ ⟨s', turns'⟩ := by
  have hSteps := Relation.ReflTransGen.mono (fun _ _ hStep => And.intro hStep trivial) _ _ h
  exact exists_runs hSteps turns

variable {c c' : Chronicle σ α} {number : Nat}

theorem Step.system (h : Step env c c') : System.Step env c.system c'.system := by
  cases h with
  | turn hThread hStep => exact .thread hThread hStep
  | clock now hNow => exact .clock now hNow
  | cancel token => exact .cancel token
  | command command hCommand => exact .command command hCommand

theorem Runs.system (h : Runs env kind c c') : System.Runs env c.system c'.system := by
  induction h with
  | refl => exact .refl
  | tail _ hLast ih => exact ih.tail hLast.1.system

theorem Runs.mono (h : Runs env kind c c') (hKind : ∀ c c', kind c c' → kind' c c') : Runs env kind' c c' :=
  Relation.ReflTransGen.mono (fun _ _ hStep => ⟨hStep.1, hKind _ _ hStep.2⟩) _ _ h

/-! What is written down. -/

theorem hasBegun_of_mem_heardBy {x : Exchange} (h : x ∈ c.heardBy number) : c.HasBegun number :=
  ⟨_, Turn.mem_heardBy.1 h, rfl⟩

/-- A step adds at most one thing to what a thread has heard. -/
theorem Step.heardBy_cases (h : Step env c c') (number : Nat) : c'.heardBy number = c.heardBy number ∨
    ∃ x, c'.turns = ⟨number, some x⟩ :: c.turns ∧ c'.heardBy number = c.heardBy number ++ [x] := by
  cases h with
  | @turn number' t t' w' hThread hStep =>
      by_cases hOwn : number' = number
      · subst hOwn
        rw [heardBy, Turn.heardBy_cons_self]
        cases t.hears number' c.system.world with
        | none => exact .inl (List.append_nil _)
        | some x => exact .inr ⟨x, rfl, rfl⟩
      · exact .inl (Turn.heardBy_cons_of_ne hOwn)
  | _ => exact .inl rfl

/-- Threads begin one by one. -/
theorem Step.hasBegun_cases (h : Step env c c') (hBegun : c'.HasBegun number) :
    c.HasBegun number ∨ ∃ heard, c'.turns = ⟨number, heard⟩ :: c.turns := by
  obtain ⟨turn, hTurn, rfl⟩ := hBegun
  cases h with
  | turn =>
      rcases List.mem_cons.1 hTurn with rfl | hOld
      · exact .inr ⟨_, rfl⟩
      · exact .inl ⟨turn, hOld, rfl⟩
  | _ => exact .inl ⟨turn, hTurn, rfl⟩

/-- A step leaves a thread alone, or it is a step of the thread, which adds what is heard by it. -/
theorem Step.own_cases (h : Step env c c') (number : Nat) :
    (c'.system.threads[number]? = c.system.threads[number]? ∧ c'.heardBy number = c.heardBy number) ∨
    ∃ t t' w', c.system.threads[number]? = some t ∧ t.Step env.aborts number c.system.world t' w' ∧
      c'.system.threads[number]? = some t' ∧
      c'.heardBy number = c.heardBy number ++ (t.hears number c.system.world).toList := by
  cases h with
  | @turn number' t t' w' hThread hStep =>
      by_cases hOwn : number' = number
      · subst hOwn
        refine .inr ⟨t, t', w', hThread, hStep, ?_, Turn.heardBy_cons_self _⟩
        exact List.getElem?_set_self (List.getElem?_eq_some_iff.1 hThread).1
      · exact .inl ⟨List.getElem?_set_ne hOwn, Turn.heardBy_cons_of_ne hOwn⟩
  | _ => exact .inl ⟨rfl, rfl⟩

/-- Results stand. -/
theorem Step.result? (h : Step env c c') {a : α} (hResult : c.result? number = some a) :
    c'.result? number = some a := by
  obtain ⟨t, hThread, hEnd⟩ := Option.bind_eq_some_iff.1 hResult
  rcases h.system.thread_cases hThread with hSame | ⟨t', -, hOwn⟩
  · exact (System.result?_of_thread hSame).trans hEnd
  · rw [hOwn.result?_eq_none] at hEnd
    cases hEnd

theorem Step.result?_eq_none (h : Step env c c') (hNone : c'.result? number = none) : c.result? number = none := by
  cases hResult : c.result? number with
  | none => rfl
  | some a =>
      rw [h.result? hResult] at hNone
      cases hNone

theorem Runs.result? (h : Runs env kind c c') {a : α} (hResult : c.result? number = some a) :
    c'.result? number = some a := by
  induction h with
  | refl => exact hResult
  | tail _ hLast ih => exact hLast.1.result? ih

/-- The thread whose turn is written down was at a wait that ended as it heard. -/
theorem Step.exists_thread (h : Step env c c') {x : Exchange} (hTurn : c'.turns = ⟨number, some x⟩ :: c.turns) :
    ∃ t next, c.system.threads[number]? = some t ∧ t.progress.rest = .await x.wait next ∧
      t.hears number c.system.world = some x := by
  cases h with
  | @turn number' t t' w' hThread hStep =>
      obtain ⟨rfl, hHears⟩ := Turn.mk.inj (List.cons.inj hTurn).1
      obtain ⟨next, hRest⟩ := Thread.rest_of_hears hHears
      exact ⟨t, next, hThread, hRest, hHears⟩
  | clock => exact absurd hTurn.symm (List.cons_ne_self _ _)
  | cancel => exact absurd hTurn.symm (List.cons_ne_self _ _)
  | command => exact absurd hTurn.symm (List.cons_ne_self _ _)

variable {w : World σ} {jobs : List (Context × Procedure α)} {job : Context × Procedure α} {D : Dialogue}
  {goal : List Exchange → α → Prop} {t : Thread σ α}

/-- What a thread heard leads from its procedure to what is left of it. -/
theorem Runs.path (h : Runs env kind (start w jobs) c) (hJob : jobs[number]? = some job)
    (hThread : c.system.threads[number]? = some t) : job.2.Path (c.heardBy number) t.progress.rest := by
  induction h generalizing t with
  | refl =>
      obtain ⟨job', hJob', rfl⟩ := Option.map_eq_some_iff.1 (List.getElem?_map ▸ hThread)
      obtain rfl := Option.some.inj (hJob.symm.trans hJob')
      exact .refl _
  | tail _ hLast ih =>
      rcases hLast.1.own_cases number with ⟨hSame, hHeard⟩ | ⟨t₁, t₂, w', hBefore, hStep, hOwn, hHeard⟩
      · rw [hHeard]
        exact ih (hSame ▸ hThread)
      · obtain rfl := Option.some.inj (hThread.symm.trans hOwn)
        rw [hHeard]
        exact (ih hBefore).trans hStep.path

/-- A thread that keeps to a dialogue ends in keeping with what it heard. -/
theorem Runs.goal_of_result (h : Runs env kind (start w jobs) c) (hJob : jobs[number]? = some job)
    (hConverses : job.2.Converses D goal []) (hTold : ∀ x ∈ c.heardBy number, D.told x) {a : α}
    (hResult : c.result? number = some a) : goal (c.heardBy number) a := by
  obtain ⟨⟨ctx, progress⟩, hThread, hEnd⟩ := Option.bind_eq_some_iff.1 hResult
  have hRest := (h.path hJob hThread).converses hTold hConverses
  cases progress with
  | waiting s => cases hEnd
  | running p =>
      cases p with
      | done b =>
          obtain rfl : b = a := Option.some.inj hEnd
          exact hRest
      | act action next => cases hEnd
      | await wait next => cases hEnd

/-- A thread that keeps to a dialogue, and whose wait ends, was allowed to wait. -/
theorem Runs.asks_of_turn (h : Runs env kind (start w jobs) c) (hJob : jobs[number]? = some job)
    (hConverses : job.2.Converses D goal []) (hTold : ∀ x ∈ c.heardBy number, D.told x) (hStep : Step env c c')
    {x : Exchange} (hTurn : c'.turns = ⟨number, some x⟩ :: c.turns) : D.asks (c.heardBy number) x.wait := by
  obtain ⟨t, next, hThread, hRest, -⟩ := hStep.exists_thread hTurn
  have hAsks := (h.path hJob hThread).converses hTold hConverses
  rw [hRest] at hAsks
  exact hAsks.1

/-- Only jobs take turns. -/
theorem Runs.exists_job (h : Runs env kind (start w jobs) c) (hStep : Step env c c') {x : Exchange}
    (hTurn : c'.turns = ⟨number, some x⟩ :: c.turns) : ∃ job, jobs[number]? = some job := by
  obtain ⟨t, next, hThread, -⟩ := hStep.exists_thread hTurn
  obtain ⟨job, path, hJob, -⟩ := System.Runs.exists_path h.system hThread
  exact ⟨job, hJob⟩

/-! Threads that answer requests. -/

section

variable {ρ : Type} {requests : List (Context × ρ)} {serve : ρ → Procedure α} {dialogue : ρ → Dialogue}
  {wanted : ρ → List Exchange → α → Prop}

/-- What a thread waits for is what the dialogue of its request allows. -/
theorem Runs.asks_of_request (hServe : ∀ r, (serve r).Converses (dialogue r) (wanted r) [])
    (hTold : ∀ r x, (dialogue r).told x)
    (h : Runs env kind (start w (requests.map fun job => (job.1, serve job.2))) c) (hStep : Step env c c')
    {x : Exchange} (hTurn : c'.turns = ⟨number, some x⟩ :: c.turns) :
    ∃ ctx r, requests[number]? = some (ctx, r) ∧ (dialogue r).asks (c.heardBy number) x.wait := by
  obtain ⟨job, hJob⟩ := h.exists_job hStep hTurn
  obtain ⟨⟨ctx, r⟩, hRequest, rfl⟩ := Option.map_eq_some_iff.1 (List.getElem?_map ▸ hJob)
  exact ⟨ctx, r, hRequest, h.asks_of_turn hJob (hServe r) (fun x _ => hTold r x) hStep hTurn⟩

/-- What a thread ends with is what the dialogue of its request leads to. -/
theorem Runs.wanted_of_result (hServe : ∀ r, (serve r).Converses (dialogue r) (wanted r) [])
    (hTold : ∀ r x, (dialogue r).told x)
    (h : Runs env kind (start w (requests.map fun job => (job.1, serve job.2))) c) {a : α}
    (hResult : c.result? number = some a) :
    ∃ ctx r, requests[number]? = some (ctx, r) ∧ wanted r (c.heardBy number) a := by
  obtain ⟨t, hThread, -⟩ := Option.bind_eq_some_iff.1 hResult
  obtain ⟨job, -, hJob, -⟩ := System.Runs.exists_path h.system hThread
  obtain ⟨⟨ctx, r⟩, hRequest, rfl⟩ := Option.map_eq_some_iff.1 (List.getElem?_map ▸ hJob)
  exact ⟨ctx, r, hRequest, h.goal_of_result hJob (hServe r) (fun x _ => hTold r x) hResult⟩

end

/-- The thread of a turn has not ended before it. -/
theorem Step.result?_eq_none_of_turn (h : Step env c c') {x : Exchange}
    (hTurn : c'.turns = ⟨number, some x⟩ :: c.turns) : c.result? number = none := by
  obtain ⟨⟨ctx, progress⟩, next, hThread, hRest, -⟩ := h.exists_thread hTurn
  refine (System.result?_of_thread hThread).trans ?_
  cases progress with
  | waiting s => rfl
  | running p =>
      obtain rfl : p = .await x.wait next := hRest
      rfl

/-! The end of a thread. -/

/-- Threads keep their contexts. -/
theorem Runs.exists_thread (h : Runs env kind (start w jobs) c) (hJob : jobs[number]? = some job) :
    ∃ t, c.system.threads[number]? = some t ∧ t.ctx = job.1 := by
  induction h with
  | refl =>
      refine ⟨.start job, ?_, rfl⟩
      simp [start, System.start, hJob]
  | tail _ hLast ih =>
      obtain ⟨t, hThread, hCtx⟩ := ih
      rcases hLast.1.system.thread_cases hThread with hSame | ⟨t', hNext, hOwn⟩
      · exact ⟨t, hSame, hCtx⟩
      · exact ⟨t', hNext, hOwn.ctx_eq.trans hCtx⟩

/-- A thread hears of no abort from a step before which its context ends no wait. -/
theorem Runs.step_answer_ne_error (h : Runs env kind (start w jobs) c) (hJob : jobs[number]? = some job)
    (hCtx : c.system.world.abort? job.1 = none) (hStep : Step env c c')
    (hUnaborted : ∀ x ∈ c.heardBy number, ∀ abort, x.answer ≠ .error abort) :
    ∀ x ∈ c'.heardBy number, ∀ abort, x.answer ≠ .error abort := by
  rcases hStep.heardBy_cases number with hQuiet | ⟨x, hTurn, hHeard⟩
  · rwa [hQuiet]
  · rw [hHeard]
    refine List.forall_mem_append.2 ⟨hUnaborted, List.forall_mem_singleton.2 ?_⟩
    obtain ⟨t, next, hThread, -, hHears⟩ := hStep.exists_thread hTurn
    obtain ⟨t', hThread', hOwn⟩ := h.exists_thread hJob
    obtain rfl := Option.some.inj (hThread.symm.trans hThread')
    intro abort hAnswer
    obtain ⟨wait, answer⟩ := x
    obtain rfl : answer = .error abort := hAnswer
    have hAbort := Thread.abort?_of_hears hHears
    rw [hOwn] at hAbort
    cases hAbort.symm.trans hCtx

/-- Where nothing ends the waits of a thread, it hears of no abort. -/
theorem Runs.answer_ne_error (h : Runs env kind (start w jobs) c) (hJob : jobs[number]? = some job)
    (hCtx : job.1.Endless) {x : Exchange} (hx : x ∈ c.heardBy number) (abort : Abort) : x.answer ≠ .error abort := by
  suffices hUnaborted : ∀ x ∈ c.heardBy number, ∀ abort, x.answer ≠ .error abort from hUnaborted x hx abort
  clear hx
  induction h with
  | refl => exact fun x hx => (List.not_mem_nil hx).elim
  | tail hRuns hLast ih => exact Runs.step_answer_ne_error hRuns hJob (hCtx _ _) hLast.1 ih

/-- While no more tokens are cancelled, a context that no time ends ends no wait. -/
theorem Runs.forall_answer_ne_error (h : Runs env kind (start w jobs) c) (hJob : jobs[number]? = some job)
    (hCtx : job.1.Unhurried c.system.world.cancelled)
    (hMore : Runs env (fun c c' => c'.system.world.cancelled = c.system.world.cancelled) c c')
    (hUnaborted : ∀ x ∈ c.heardBy number, ∀ abort, x.answer ≠ .error abort) :
    ∀ x ∈ c'.heardBy number, ∀ abort, x.answer ≠ .error abort := by
  suffices hBoth : c'.system.world.cancelled = c.system.world.cancelled ∧
      ∀ x ∈ c'.heardBy number, ∀ abort, x.answer ≠ .error abort from hBoth.2
  induction hMore with
  | refl => exact ⟨rfl, hUnaborted⟩
  | @tail c₁ c₂ hMore hLast ih =>
      obtain ⟨hSame, hOld⟩ := ih
      have hRuns := (h.mono fun _ _ _ => trivial).trans (Runs.mono hMore fun _ _ _ => trivial)
      have hQuiet : c₁.system.world.abort? job.1 = none := by
        rw [World.abort?, hSame]
        exact hCtx _
      exact ⟨hLast.2.trans hSame, Runs.step_answer_ne_error hRuns hJob hQuiet hLast.1 hOld⟩

/-- A thread that waits for nothing but the platform can be carried to its end if no time ends its waits. -/
theorem Runs.exists_end (h : Runs env kind (start w jobs) c) (hJob : jobs[number]? = some job)
    (hAsks : job.2.OnlyAsks) (hCtx : job.1.Unhurried c.system.world.cancelled) :
    ∃ c' a, Runs env (fun c c' => c'.system.world.cancelled = c.system.world.cancelled) c c' ∧
      c'.result? number = some a := by
  obtain ⟨t, hThread, hSameCtx⟩ := h.exists_thread hJob
  obtain ⟨hNumber, hCurrent⟩ := List.getElem?_eq_some_iff.1 hThread
  obtain ⟨w', a, hRuns⟩ := Thread.exists_done env (hAsks.path (h.path hJob hThread)) hNumber (hSameCtx ▸ hCtx)
  rw [← hCurrent, List.set_getElem_self] at hRuns
  obtain ⟨turns, hChronicle⟩ := exists_runs hRuns c.turns
  have hThread' : (c.system.threads.set number ⟨t.ctx, .running (.done a)⟩)[number]? = _ :=
    List.getElem?_set_self hNumber
  rw [hCurrent] at hChronicle
  exact ⟨_, a, hChronicle, Option.bind_eq_some_iff.2 ⟨_, hThread', rfl⟩⟩

/-- A thread that waits for nothing but calls can always be carried to its end where nothing ends its waits. -/
theorem Runs.exists_result (h : Runs env kind (start w jobs) c) (hJob : jobs[number]? = some job)
    (hCtx : job.1.Endless) (hCalls : job.2.OnlyCalls) :
    ∃ c' a, Runs env (fun _ _ => True) c c' ∧ c'.result? number = some a := by
  obtain ⟨c', a, hRuns, hResult⟩ := h.exists_end hJob hCalls.onlyAsks (hCtx.unhurried _)
  exact ⟨c', a, hRuns.mono fun _ _ _ => trivial, hResult⟩

/-! One thread at a time. -/

/-- Whether nobody but the thread of a number takes a turn. -/
def OnlyMoves (number : Nat) (c c' : Chronicle σ α) : Prop :=
  ∀ turn ∈ c'.turns, turn ∈ c.turns ∨ turn.number = number

theorem Step.set {w w' : World σ} {threads : List (Thread σ α)} {turns : List Turn} {t t' : Thread σ α}
    (hNumber : number < threads.length) (hStep : t.Step env.aborts number w t' w') :
    Step env ⟨⟨w, threads.set number t⟩, turns⟩
        ⟨⟨w', threads.set number t'⟩, ⟨number, t.hears number w⟩ :: turns⟩ ∧
      OnlyMoves number ⟨⟨w, threads.set number t⟩, turns⟩
        ⟨⟨w', threads.set number t'⟩, ⟨number, t.hears number w⟩ :: turns⟩ := by
  have hThread : (threads.set number t)[number]? = some t := List.getElem?_set_self hNumber
  have hTurn := Step.turn (c := ⟨⟨w, threads.set number t⟩, turns⟩) hThread hStep
  rw [List.set_set] at hTurn
  refine ⟨hTurn, fun turn h => ?_⟩
  rcases List.mem_cons.1 h with rfl | hOld
  · exact .inr rfl
  · exact .inl hOld

/-- Nobody else begins meanwhile. -/
theorem Runs.hasBegun_of_onlyMoves (h : Runs env (OnlyMoves number) c c') {other : Nat} (hBegun : c'.HasBegun other) :
    c.HasBegun other ∨ other = number := by
  induction h with
  | refl => exact .inl hBegun
  | tail _ hLast ih =>
      obtain ⟨turn, hTurn, rfl⟩ := hBegun
      exact (hLast.2 turn hTurn).elim (fun hOld => ih ⟨turn, hOld, rfl⟩) .inr

theorem exists_advance_set {ctx : Context} (hCtx : env.Admits ctx) {threads : List (Thread σ α)}
    (hNumber : number < threads.length) (p : Procedure α) (w : World σ) (turns : List Turn) :
    ∃ turns', Runs env (OnlyMoves number) ⟨⟨w, threads.set number ⟨ctx, .running p⟩⟩, turns⟩
      ⟨⟨(p.advance number ctx w).2, threads.set number (.ofRun ctx (p.advance number ctx w).1)⟩, turns'⟩ := by
  induction p generalizing w turns with
  | done a => exact ⟨turns, .refl⟩
  | act action next ih =>
      obtain ⟨turns', hRuns⟩ := ih (w.perform action).1 (w.perform action).2 _
      exact ⟨turns', .head (Step.set hNumber (.act action next)) hRuns⟩
  | await wait next ih =>
      unfold Procedure.advance
      split
      · rename_i abort hAbort
        obtain ⟨turns', hRuns⟩ := ih (.error abort) w _
        exact ⟨turns', .head (Step.set hNumber (.refuse (hCtx _ _ _ hAbort) hAbort)) hRuns⟩
      · rename_i hAbort
        have hOpened := hAbort
        rw [← (World.sameMoment_openWait w number wait).abort?] at hOpened
        simp only
        split
        · rename_i answer w' hPoll
          obtain ⟨turns', hRuns⟩ := ih (.ok answer) w' _
          exact ⟨turns', .head (Step.set hNumber (.enter hAbort))
            (.head (Step.set hNumber (.answer hOpened hPoll)) hRuns)⟩
        · rename_i pending w' hPoll
          exact ⟨_, .head (Step.set hNumber (.enter hAbort))
            (.single (Step.set hNumber (.linger hOpened hPoll)))⟩

/-- A thread is carried out alone until it ends or has to wait. -/
theorem exists_advance (hAdmits : ∀ ctx, env.Admits ctx) (s : System σ α) (number : Nat) (turns : List Turn) :
    ∃ turns', Runs env (OnlyMoves number) ⟨s, turns⟩ ⟨s.advance number, turns'⟩ := by
  unfold System.advance
  split
  · rename_i ctx p hThread
    have hNumber := (List.getElem?_eq_some_iff.1 hThread).1
    obtain ⟨turns', hRuns⟩ := exists_advance_set (hAdmits ctx) hNumber p s.world turns
    rw [set_of_getElem? hThread] at hRuns
    exact ⟨turns', hRuns⟩
  · exact ⟨turns, .refl⟩

/-- Threads are carried out one after the other. -/
theorem exists_advances (hAdmits : ∀ ctx, env.Admits ctx) (numbers : List Nat) (s : System σ α) (turns : List Turn) :
    ∃ turns', Runs env (fun _ _ => True) ⟨s, turns⟩ ⟨numbers.foldl System.advance s, turns'⟩ := by
  induction numbers generalizing s turns with
  | nil => exact ⟨turns, .refl⟩
  | cons number numbers ih =>
      obtain ⟨turns₁, hFirst⟩ := exists_advance hAdmits s number turns
      obtain ⟨turns₂, hRest⟩ := ih (s.advance number) turns₁
      exact ⟨turns₂, (hFirst.mono fun _ _ _ => trivial).trans hRest⟩

end Chronicle

end VolumeController

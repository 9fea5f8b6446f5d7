import VolumeController.Proofs.Contracts
import VolumeController.Proofs.Interleaving.Rules
import VolumeController.Proofs.Interleaving.Schedule
/-! Contracts between threads and a platform. A platform upholds a contract in its states of some kind if calls
that the contract allows lead from one to another and are answered as it promises. Main result: where threads
meet a contract that the platform upholds, every interleaving stays among these states, every thread ends as wanted,
and no call is begun that the contract does not allow. -/

namespace VolumeController

variable {σ α : Type}

/-- What a platform and its surroundings owe to the threads, in the states of some kind. -/
structure Contract.Upheld [Bench σ] (C : Contract) (env : Surroundings σ) (states : σ → Prop) : Prop where
  start : ∀ c state, C.asks (.call c) → states state → states (Platform.start c state).2.2
  finish : ∀ c ticket state, C.asks (.call c) → states state →
    C.told (.call c) (.ok (Platform.finish c ticket state).1) ∧ states (Platform.finish c ticket state).2.2
  command : ∀ c state, env.commands c → states state → states (Bench.obey c state).2
  abort : env.aborts → ∀ wait abort, C.told wait (.error abort)
  asksListings : ∀ dcs, C.asks (.listings dcs) → ∀ dc ∈ dcs, C.asks (.call (.listDisks dc))
  listings : ∀ dcs answers, (∀ answer ∈ answers, ∃ dc, C.told (.call (.listDisks dc)) (.ok answer)) →
    C.told (.listings dcs) (.ok answers)
  lock : ∀ lock, C.told (.lock lock) (.ok ())
  work : ∀ duration, C.told (.work duration) (.ok ())

/-- The same contract with the promise that no wait is aborted. -/
def Contract.unaborted (C : Contract) : Contract where
  asks := C.asks
  told wait answer := (∀ abort, answer ≠ .error abort) ∧ C.told wait answer

theorem Contract.Upheld.unaborted [Bench σ] {C : Contract} {env : Surroundings σ} {states : σ → Prop}
    (h : C.Upheld env states) (hAborts : ¬ env.aborts) : C.unaborted.Upheld env states where
  start := h.start
  finish c ticket state hAsks hState := (h.finish c ticket state hAsks hState).imp_left fun hTold => ⟨nofun, hTold⟩
  command := h.command
  abort hAllowed := absurd hAllowed hAborts
  asksListings := h.asksListings
  listings dcs answers hAnswers := by
    refine ⟨nofun, h.listings dcs answers fun answer hAnswer => ?_⟩
    obtain ⟨dc, -, hTold⟩ := hAnswers answer hAnswer
    exact ⟨dc, hTold⟩
  lock lock := ⟨nofun, h.lock lock⟩
  work duration := ⟨nofun, h.work duration⟩

namespace World

variable [Bench σ] {C : Contract} {env : Surroundings σ} {states : σ → Prop} {w : World σ}

/-- A listing that the contract allows, or one that was answered as it promises. -/
def Slot.Keeps (C : Contract) : Slot σ → Prop
  | .waiting dc _ => C.asks (.call (.listDisks dc))
  | .answered reply => ∃ dc, C.told (.call (.listDisks dc)) (.ok reply)

/-- An opened wait that keeps to a contract. -/
def Pending.Keeps (C : Contract) {wait : Wait} : Pending σ wait → Prop
  | .listings slots => ∀ slot ∈ slots, Slot.Keeps C slot
  | _ => True

theorem Slot.Keeps.poll (hC : C.Upheld env states) {slot : Slot σ} (h : slot.Keeps C)
    (hState : states w.platform) : (w.pollSlot slot).1.Keeps C ∧ states (w.pollSlot slot).2.platform := by
  cases slot with
  | answered reply => exact ⟨h, hState⟩
  | waiting dc started =>
      by_cases hDue : started.due ≤ w.now
      · obtain ⟨hTold, hNext⟩ := hC.finish _ started.ticket _ h hState
        simp only [pollSlot, if_pos hDue]
        exact ⟨⟨dc, hTold⟩, hNext⟩
      · simp only [pollSlot, if_neg hDue]
        exact ⟨h, hState⟩

theorem keeps_pollSlots (hC : C.Upheld env states) {slots : List (Slot σ)}
    (h : ∀ slot ∈ slots, Slot.Keeps C slot) (hState : states w.platform) :
    (∀ slot ∈ (w.pollSlots slots).1, Slot.Keeps C slot) ∧ states (w.pollSlots slots).2.platform := by
  induction slots generalizing w with
  | nil => exact ⟨h, hState⟩
  | cons slot slots ih =>
      obtain ⟨hSlot, hSlots⟩ := List.forall_mem_cons.1 h
      obtain ⟨hFirst, hNext⟩ := hSlot.poll hC hState
      obtain ⟨hRest, hFinal⟩ := ih hSlots hNext
      exact ⟨List.forall_mem_cons.2 ⟨hFirst, hRest⟩, hFinal⟩

theorem keeps_startSlots (hC : C.Upheld env states) {dcs : List Datacenter}
    (h : ∀ dc ∈ dcs, C.asks (.call (.listDisks dc))) (hState : states w.platform) :
    (∀ slot ∈ (w.startSlots dcs).1, Slot.Keeps C slot) ∧ states (w.startSlots dcs).2.platform := by
  induction dcs generalizing w with
  | nil => exact ⟨fun slot hSlot => (List.not_mem_nil hSlot).elim, hState⟩
  | cons dc dcs ih =>
      obtain ⟨hAsks, hRest⟩ := List.forall_mem_cons.1 h
      have hSlot : Slot.Keeps C (.waiting dc (w.start (.listDisks dc)).1) := hAsks
      have hStarted : states (w.start (.listDisks dc)).2.platform := hC.start _ _ hAsks hState
      obtain ⟨hFirst, hNext⟩ := hSlot.poll hC hStarted
      obtain ⟨hSlots, hFinal⟩ := ih hRest hNext
      exact ⟨List.forall_mem_cons.2 ⟨hFirst, hSlots⟩, hFinal⟩

/-- Replies that are all there are as the contract promises. -/
theorem told_of_replies? {slots : List (Slot σ)} {replies : List (Except BackendError (List Disk))}
    (h : ∀ slot ∈ slots, Slot.Keeps C slot) (hReplies : replies? slots = some replies) :
    ∀ reply ∈ replies, ∃ dc, C.told (.call (.listDisks dc)) (.ok reply) := by
  induction slots generalizing replies with
  | nil =>
      cases hReplies
      simp
  | cons slot slots ih =>
      obtain ⟨hSlot, hSlots⟩ := List.forall_mem_cons.1 h
      cases slot with
      | waiting => cases hReplies
      | answered reply =>
          obtain ⟨rest, hRest, rfl⟩ := Option.map_eq_some_iff.1 hReplies
          exact List.forall_mem_cons.2 ⟨hSlot, ih hSlots hRest⟩

theorem keeps_openWait (hC : C.Upheld env states) (task : Nat) {wait : Wait} (h : C.asks wait)
    (hState : states w.platform) :
    (w.openWait task wait).1.Keeps C ∧ states (w.openWait task wait).2.platform := by
  cases wait with
  | call c => exact ⟨trivial, hC.start c _ h hState⟩
  | listings dcs => exact keeps_startSlots hC (hC.asksListings dcs h) hState
  | lock lock => exact ⟨trivial, hState⟩
  | work duration => exact ⟨trivial, hState⟩

/-- What comes of looking at a wait keeps to the contract too. -/
theorem keeps_poll (hC : C.Upheld env states) (task : Nat) {wait : Wait} {pending : Pending σ wait}
    (hAsks : C.asks wait) (h : pending.Keeps C) (hState : states w.platform) :
    states (w.poll task pending).2.platform ∧
      (∀ answer, (w.poll task pending).1 = .inr answer → C.told wait (.ok answer)) ∧
      ∀ pending', (w.poll task pending).1 = .inl pending' → pending'.Keeps C := by
  cases pending with
  | call started =>
      obtain ⟨hTold, hNext⟩ := hC.finish _ started.ticket _ hAsks hState
      rcases w.poll_call task started with hDone | hEarly
      · rw [hDone]
        refine ⟨hNext, ?_, by simp⟩
        rintro _ ⟨⟩
        exact hTold
      · rw [hEarly]
        refine ⟨hState, by simp, ?_⟩
        rintro _ ⟨⟩
        trivial
  | listings slots =>
      obtain ⟨hSlots, hNext⟩ := keeps_pollSlots hC h hState
      unfold poll
      simp only
      split
      · rename_i replies hReplies
        refine ⟨hNext, ?_, by simp⟩
        rintro _ ⟨⟩
        exact hC.listings _ _ (told_of_replies? hSlots hReplies)
      · refine ⟨hNext, by simp, ?_⟩
        rintro _ ⟨⟩
        exact hSlots
  | lock => exact ⟨hState, fun _ _ => hC.lock _, fun pending' _ => by cases pending'; trivial⟩
  | work due => exact ⟨hState, fun _ _ => hC.work _, fun pending' _ => by cases pending'; trivial⟩

/-! The calls that were begun. -/

/-- Whether the calls that were begun besides the known ones are such as a contract allows. -/
def HasBegun (C : Contract) (known : List Call) (w : World σ) : Prop :=
  ∃ begun, w.calls = begun ++ known ∧ ∀ c ∈ begun, C.asks (.call c)

variable {known : List Call}

theorem HasBegun.start {c : Call} (h : w.HasBegun C known) (hAsks : C.asks (.call c)) :
    (w.start c).2.HasBegun C known := by
  obtain ⟨begun, hBegun, hBefore⟩ := h
  exact ⟨c :: begun, congrArg (c :: ·) hBegun, List.forall_mem_cons.2 ⟨hAsks, hBefore⟩⟩

theorem HasBegun.startSlots {dcs : List Datacenter} (h : w.HasBegun C known)
    (hAsks : ∀ dc ∈ dcs, C.asks (.call (.listDisks dc))) : (w.startSlots dcs).2.HasBegun C known := by
  induction dcs generalizing w with
  | nil => exact h
  | cons dc dcs ih =>
      obtain ⟨hFirst, hRest⟩ := List.forall_mem_cons.1 hAsks
      let started := w.start (.listDisks dc)
      obtain ⟨platform, log, hPoll⟩ := started.2.exists_pollSlot_eq (.waiting dc started.1)
      have hPolled : (started.2.pollSlot (.waiting dc started.1)).2.HasBegun C known := by
        rw [hPoll]
        exact h.start hFirst
      exact ih hPolled hRest

theorem HasBegun.openWait (hC : C.Upheld env states) (h : w.HasBegun C known) (task : Nat) {wait : Wait}
    (hAsks : C.asks wait) : (w.openWait task wait).2.HasBegun C known := by
  cases wait with
  | call c => exact h.start hAsks
  | listings dcs => exact h.startSlots (hC.asksListings dcs hAsks)
  | lock lock => exact h
  | work duration => exact h

theorem HasBegun.poll (h : w.HasBegun C known) (task : Nat) {wait : Wait} (pending : Pending σ wait) :
    (w.poll task pending).2.HasBegun C known := by
  obtain ⟨platform, log, hPoll⟩ := w.exists_poll_eq task pending
  rw [hPoll]
  exact h

end World

/-- The rules of threads that meet a contract: the platform is in a state of some kind, and only calls that the
contract allows have been begun. -/
def Contract.rules [Bench σ] (C : Contract) (states : σ → Prop) (known : List Call) (aborts : Prop) : Rules σ Unit where
  invariant w _ := states w.platform ∧ w.HasBegun C known
  aborts := aborts

theorem Procedure.Meets.follows [Bench σ] {C : Contract} {env : Surroundings σ} {states : σ → Prop}
    {known : List Call} (hC : C.Upheld env states) {number : Nat} {goal : α → Prop} {p : Procedure α}
    (h : p.Meets C goal) : (C.rules states known env.aborts).Follows number (fun a _ => goal a) p () := by
  induction p with
  | done a => exact h
  | act action next ih =>
      intro w
      refine .stay (ih _ (h _)) fun stages hState _ => ?_
      cases action <;> exact hState
  | await wait next ih =>
      obtain ⟨hAsks, hNext⟩ := h
      have hAbort : env.aborts → ∀ abort, (C.rules states known env.aborts).Follows number (fun a _ => goal a)
          (next (.error abort)) () := fun hAborts abort => ih _ (hNext _ (hC.abort hAborts wait abort))
      refine ⟨fun hAborts abort w => .stay (hAbort hAborts abort) fun _ hState _ => hState,
        fun _ pending => pending.Keeps C, ?_, ?_⟩
      · rintro w stages ⟨hState, hBegun⟩ hStage
        obtain ⟨hKeeps, hNext⟩ := World.keeps_openWait hC number hAsks hState
        exact ⟨(), ⟨hNext, hBegun.openWait hC number hAsks⟩, hKeeps⟩
      · intro stage pending hKeeps
        refine ⟨fun hAborts abort w => ?_, fun w answer w' hPoll => ?_, fun w pending' w' hPoll => ?_⟩
        · refine .stay (hAbort hAborts abort) fun stages hState _ => ?_
          cases wait <;> exact hState
        · rintro stages ⟨hState, hBegun⟩ hStage
          obtain ⟨hNext', hTold, -⟩ := World.keeps_poll hC number hAsks hKeeps hState
          have hBegun' := hBegun.poll number pending
          rw [hPoll] at hNext' hTold hBegun'
          exact ⟨(), ⟨hNext', hBegun'⟩, ih _ (hNext _ (hTold answer rfl))⟩
        · rintro stages ⟨hState, hBegun⟩ hStage
          obtain ⟨hNext', -, hKept⟩ := World.keeps_poll hC number hAsks hKeeps hState
          have hBegun' := hBegun.poll number pending
          rw [hPoll] at hNext' hKept hBegun'
          exact ⟨(), ⟨hNext', hBegun'⟩, hKept pending' rfl⟩

/-- Threads that meet a contract which is upheld go on to do so. -/
theorem Contract.Upheld.follows_runs [Bench σ] {C : Contract} {env : Surroundings σ} {states : σ → Prop}
    (hC : C.Upheld env states) {w : World σ} (hState : states w.platform)
    {jobs : List (Context × Procedure α)} {goal : Nat → α → Prop}
    (hMeets : ∀ (number : Nat) job, jobs[number]? = some job → job.2.Meets C (goal number)) {s : System σ α}
    (hRuns : System.Runs env (System.start w jobs) s) :
    ∃ stages, s.Follows (C.rules states w.calls env.aborts) (fun number a _ => goal number a) stages := by
  have hStart : (System.start w jobs).Follows (C.rules states w.calls env.aborts)
      (fun number a _ => goal number a) (List.replicate jobs.length ()) :=
    .startTogether ⟨hState, [], rfl, by simp⟩ fun number job hJob => (hMeets number job hJob).follows hC
  have hCovers : (C.rules states w.calls env.aborts).Covers env :=
    ⟨id, fun _ _ _ _ h => h, fun _ _ _ h => h, fun w _ c hCommand h => ⟨hC.command c _ hCommand h.1, h.2⟩⟩
  exact hStart.runs hCovers hRuns

theorem Contract.Upheld.runs [Bench σ] {C : Contract} {env : Surroundings σ} {states : σ → Prop}
    (hC : C.Upheld env states) {w : World σ} (hState : states w.platform)
    {jobs : List (Context × Procedure α)} {goal : Nat → α → Prop}
    (hMeets : ∀ (number : Nat) job, jobs[number]? = some job → job.2.Meets C (goal number)) {s : System σ α}
    (hRuns : System.Runs env (System.start w jobs) s) :
    states s.world.platform ∧ ∀ number a, s.result? number = some a → goal number a := by
  obtain ⟨stages, hFollows⟩ := hC.follows_runs hState hMeets hRuns
  refine ⟨hFollows.invariant.1, fun number a hResult => ?_⟩
  obtain ⟨-, -, hGoal⟩ := hFollows.goal_of_result hResult
  exact hGoal

/-- Nothing is asked of the platform but what the contract allows. -/
theorem Contract.Upheld.hasBegun [Bench σ] {C : Contract} {env : Surroundings σ} {states : σ → Prop}
    (hC : C.Upheld env states) {w : World σ} (hState : states w.platform)
    {jobs : List (Context × Procedure α)} {goal : Nat → α → Prop}
    (hMeets : ∀ (number : Nat) job, jobs[number]? = some job → job.2.Meets C (goal number)) {s : System σ α}
    (hRuns : System.Runs env (System.start w jobs) s) : s.world.HasBegun C w.calls := by
  obtain ⟨stages, hFollows⟩ := hC.follows_runs hState hMeets hRuns
  exact hFollows.invariant.2

end VolumeController

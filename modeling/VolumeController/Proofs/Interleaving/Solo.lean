import VolumeController.Proofs.Interleaving.Operations
import VolumeController.Proofs.Interleaving.Progress
import VolumeController.Proofs.Inventory.Cleared
/-! What a thread does when it alone moves and nothing goes wrong. `Solo` carries a procedure from one
scene to another, at once and without a clock. It is realized by a run of the system in which all other
threads stand still, and in a system of one thread nothing else can happen. -/

namespace VolumeController

variable {α β : Type}

/-- What is left of a world when nothing fails and time is of no account. -/
structure Scene where
  inventory : Inventory
  locks : NameLocks := {}

/-- Whether a world, in which nothing fails, looks like a scene. -/
structure World.Shows (w : World Inventory) (s : Scene) : Prop where
  faultless : w.platform.Faultless
  inventory : w.platform.cleared = s.inventory
  locks : w.locks = s.locks

namespace Scene

/-- Does what a procedure does at once. -/
def perform (s : Scene) : (action : Action) → action.Answer × Scene
  | .note _ => ((), s)
  | .observe _ _ => ((), s)
  | .centers => (s.inventory.centers.map (·.server), s)
  | .takeHandle name => ((s.locks.takeHandle name).1, { s with locks := (s.locks.takeHandle name).2 })
  | .unlock lock => ((), { s with locks := s.locks.modify lock Mutex.release })
  | .dropHandle lock => ((), { s with locks := s.locks.dropHandle lock })
  | .sweep name => ((), { s with locks := s.locks.sweep name })

/-- Carries out a call. -/
def after (s : Scene) (c : Call) : Scene :=
  { s with inventory := (s.inventory.answer c).2.2 }

/-- What listings of several datacenters answer. -/
def listings (s : Scene) (dcs : List Datacenter) : List (Except BackendError (List Disk)) :=
  dcs.map fun dc => (s.inventory.answer (.listDisks dc)).1

end Scene

/-- Steps of the thread of a number that nothing holds up, from a procedure at a scene to what is left of
both. -/
inductive Solo (number : Nat) : Procedure α → Scene → Procedure α → Scene → Prop where
  | refl (p : Procedure α) (s : Scene) : Solo number p s p s
  | act {action : Action} {next : action.Answer → Procedure α} {q : Procedure α} {s s' : Scene}
      (h : Solo number (next (s.perform action).1) (s.perform action).2 q s') :
      Solo number (.act action next) s q s'
  | call {c : Call} {next : Except Abort c.Reply → Procedure α} {q : Procedure α} {s s' : Scene}
      (h : Solo number (next (.ok (s.inventory.answer c).1)) (s.after c) q s') :
      Solo number (.await (.call c) next) s q s'
  | listings {dcs : List Datacenter}
      {next : Except Abort (List (Except BackendError (List Disk))) → Procedure α} {q : Procedure α}
      {s s' : Scene} (h : Solo number (next (.ok (s.listings dcs))) s q s') :
      Solo number (.await (.listings dcs) next) s q s'
  | lock {lock : LockId} {next : Except Abort Unit → Procedure α} {q : Procedure α} {s s' : Scene}
      (hFree : (s.locks.modify lock (·.request number)).isHeldBy lock number)
      (h : Solo number (next (.ok ())) { s with locks := s.locks.modify lock (·.request number) } q s') :
      Solo number (.await (.lock lock) next) s q s'

namespace Solo

variable {number : Nat} {p q r : Procedure α} {s s' s'' : Scene}

theorem trans (h : Solo number p s q s') (h' : Solo number q s' r s'') : Solo number p s r s'' := by
  induction h with
  | refl => exact h'
  | act _ ih => exact .act (ih h')
  | call _ ih => exact .call (ih h')
  | listings _ ih => exact .listings (ih h')
  | lock hFree _ ih => exact .lock hFree (ih h')

/-- What follows the procedure waits for it. -/
theorem bind (h : Solo number p s q s') (f : α → Procedure β) :
    Solo number (p >>= f) s (q >>= f) s' := by
  induction h with
  | refl p s => exact .refl _ s
  | act _ ih => exact .act ih
  | call _ ih => exact .call ih
  | listings _ ih => exact .listings ih
  | lock hFree _ ih => exact .lock hFree ih

theorem bind_done {a : α} {f : α → Procedure β} {q : Procedure β} (h : Solo number p s (.done a) s')
    (h' : Solo number (f a) s' q s'') : Solo number (p >>= f) s q s'' :=
  (h.bind f).trans h'

/-! Operations. -/

theorem bindOperation {op : Operation α} {f : α → Operation β} {a : α}
    {q : Procedure (Except Error β)} (h : Solo number op.run s (.done (.ok a)) s')
    (h' : Solo number (f a).run s' q s'') : Solo number (op >>= f).run s q s'' :=
  bind_done h h'

theorem bindError {op : Operation α} {f : α → Operation β} {e : Error}
    (h : Solo number op.run s (.done (.error e)) s') :
    Solo number (op >>= f).run s (.done (.error e)) s' :=
  bind_done h (.refl _ _)

theorem note (event : Event) : Solo number (Operation.note event).run s (.done (.ok ())) s :=
  .act (.refl _ s)

theorem afterNote {event : Event} {op : Operation α} {q : Procedure (Except Error α)}
    (h : Solo number op.run s q s') :
    Solo number (do Operation.note event; op : Operation α).run s q s' :=
  bindOperation (note event) h

theorem reject (cause : Cause) :
    Solo number (Operation.reject cause : Operation α).run s (.done (.error cause.toError)) s :=
  afterNote (.refl _ s)

theorem callOperation (operation : String) (c : Call) :
    Solo number (Operation.call operation c).run s (.done (.ok (s.inventory.answer c).1)) (s.after c) :=
  .call (.refl _ _)

theorem attempt {op : Operation α} {result : Except Error α} (h : Solo number op.run s (.done result) s') :
    Solo number (Operation.attempt op).run s (.done (.ok result)) s' :=
  bind_done h (.refl _ s')

end Solo

/-! Worlds that show a scene. -/

namespace World.Shows

variable {w : World Inventory} {s : Scene}

theorem perform (h : w.Shows s) (action : Action) :
    (w.perform action).1 = (s.perform action).1 ∧ (w.perform action).2.Shows (s.perform action).2 := by
  obtain ⟨inventory, locks⟩ := s
  obtain ⟨hFaultless, rfl, rfl⟩ := h
  cases action <;> exact ⟨rfl, hFaultless, rfl, rfl⟩

theorem start (h : w.Shows s) (c : Call) : (w.start c).2.Shows s :=
  ⟨h.faultless.start c, (Inventory.cleared_start w.platform c).trans h.inventory, h.locks⟩

theorem reply_finish (h : w.Shows s) (c : Call) (started : World.Started Inventory) :
    (w.finish c started).1 = (s.inventory.answer c).1 := by
  rw [← h.inventory]
  exact (h.faultless.finish_cleared c started.ticket).1

theorem finish (h : w.Shows s) (c : Call) (started : World.Started Inventory) :
    (w.finish c started).2.Shows (s.after c) := by
  refine ⟨h.faultless.finish c started.ticket, ?_, h.locks⟩
  rw [Scene.after, ← h.inventory]
  exact (h.faultless.finish_cleared c started.ticket).2

/-- A listing leaves the scene as it is. -/
theorem finish_listDisks (h : w.Shows s) (dc : Datacenter) (started : World.Started Inventory) :
    (w.finish (.listDisks dc) started).2.Shows s :=
  h.finish (.listDisks dc) started

theorem clock (h : w.Shows s) (now : Nat) : { w with now }.Shows s :=
  ⟨h.faultless, h.inventory, h.locks⟩

end World.Shows

/-! Listings under way. -/

namespace World

/-- A listing that is not answered yet, or is answered as the scene does. -/
inductive Slot.Fits (s : Scene) : Slot Inventory → Datacenter → Prop where
  | waiting (dc : Datacenter) (started : Started Inventory) : Fits s (.waiting dc started) dc
  | answered (dc : Datacenter) : Fits s (.answered (s.inventory.answer (.listDisks dc)).1) dc

variable {w : World Inventory} {s : Scene}

theorem Slot.Fits.poll {slot : Slot Inventory} {dc : Datacenter} (h : slot.Fits s dc)
    (hShows : w.Shows s) : (w.pollSlot slot).1.Fits s dc ∧ (w.pollSlot slot).2.Shows s := by
  cases h with
  | answered => exact ⟨.answered dc, hShows⟩
  | waiting _ started =>
      simp only [pollSlot]
      split
      · rw [hShows.reply_finish]
        exact ⟨.answered dc, hShows.finish_listDisks dc started⟩
      · exact ⟨.waiting dc started, hShows⟩

theorem fits_startSlots (hShows : w.Shows s) (dcs : List Datacenter) :
    List.Forall₂ (Slot.Fits s) (w.startSlots dcs).1 dcs ∧ (w.startSlots dcs).2.Shows s := by
  induction dcs generalizing w with
  | nil => exact ⟨.nil, hShows⟩
  | cons dc dcs ih =>
      have hFirst := (Slot.Fits.waiting dc (w.start (.listDisks dc)).1).poll (hShows.start (.listDisks dc))
      obtain ⟨hRest, hFinal⟩ := ih hFirst.2
      exact ⟨.cons hFirst.1 hRest, hFinal⟩

theorem fits_pollSlots (hShows : w.Shows s) {slots : List (Slot Inventory)} {dcs : List Datacenter}
    (h : List.Forall₂ (Slot.Fits s) slots dcs) :
    List.Forall₂ (Slot.Fits s) (w.pollSlots slots).1 dcs ∧ (w.pollSlots slots).2.Shows s := by
  induction h generalizing w with
  | nil => exact ⟨.nil, hShows⟩
  | cons hSlot _ ih =>
      have hFirst := hSlot.poll hShows
      obtain ⟨hRest, hFinal⟩ := ih hFirst.2
      exact ⟨.cons hFirst.1 hRest, hFinal⟩

/-- Replies that are all there are those of the scene. -/
theorem eq_listings_of_replies? {slots : List (Slot Inventory)} {dcs : List Datacenter}
    {replies : List (Except BackendError (List Disk))} (h : List.Forall₂ (Slot.Fits s) slots dcs)
    (hReplies : replies? slots = some replies) : replies = s.listings dcs := by
  induction h generalizing replies with
  | nil => exact (Option.some.inj hReplies).symm
  | cons hSlot _ ih =>
      cases hSlot with
      | waiting => cases hReplies
      | answered =>
          obtain ⟨rest, hRest, rfl⟩ := Option.map_eq_some_iff.1 hReplies
          rw [ih hRest]
          rfl

end World

namespace Solo

variable {number : Nat} {p q : Procedure α} {s s' : Scene}

/-- The surroundings let a thread go on alone while the others stand still. -/
theorem runs (h : Solo number p s q s') {w : World Inventory} (hShows : w.Shows s)
    {threads : List (Thread Inventory α)} (hNumber : number < threads.length) :
    ∃ w', w'.Shows s' ∧ System.Runs Inventory.calm
      ⟨w, threads.set number ⟨.background, .running p⟩⟩
      ⟨w', threads.set number ⟨.background, .running q⟩⟩ := by
  have hFree : ∀ w : World Inventory, w.abort? .background = none := fun w =>
    Context.abort?_background w.cancelled w.now
  induction h generalizing w with
  | refl p s => exact ⟨w, hShows, .refl⟩
  | @act action next q s s' _ ih =>
      obtain ⟨hAnswer, hNext⟩ := hShows.perform action
      obtain ⟨w', hShows', hRuns⟩ := ih hNext
      refine ⟨w', hShows', .head (.set hNumber (.act action next)) ?_⟩
      rwa [hAnswer]
  | @call c next q s s' _ ih =>
      let late : World Inventory :=
        { (w.start c).2 with now := max (w.start c).2.now (w.start c).1.due }
      have hLate : late.Shows s := (hShows.start c).clock _
      obtain ⟨w', hShows', hRuns⟩ := ih (hLate.finish c (w.start c).1)
      refine ⟨w', hShows', .head (.set hNumber (.enter (hFree w))) ?_⟩
      refine .head (.clock late.now (Nat.le_max_left _ _)) ?_
      refine .head (.set hNumber (.answer (hFree late) (late.poll_call_of_le number ?_))) ?_
      · exact Nat.le_max_right _ _
      · rwa [hLate.reply_finish]
  | @listings dcs next q s s' _ ih =>
      obtain ⟨hSlots, hOpened⟩ := World.fits_startSlots hShows dcs
      obtain ⟨later, hLater, hLate⟩ :=
        World.exists_late (w.startSlots dcs).1 (w.startSlots dcs).2.now
      let late : World Inventory := { (w.startSlots dcs).2 with now := later }
      obtain ⟨hPolled, hFinal⟩ := World.fits_pollSlots (hOpened.clock later) hSlots
      obtain ⟨replies, hReplies⟩ := World.exists_replies? (w := late) _ hLate
      obtain rfl := World.eq_listings_of_replies? hPolled hReplies
      obtain ⟨w', hShows', hRuns⟩ := ih hFinal
      refine ⟨w', hShows', .head (.set hNumber (.enter (hFree w))) ?_⟩
      refine .head (.clock later hLater) ?_
      exact .head (.set hNumber (.answer (hFree late) (late.poll_listings_of_some number hReplies))) hRuns
  | @lock lock next q s s' hHeld _ ih =>
      rw [← hShows.locks] at hHeld ih
      let asked : World Inventory := { w with locks := w.locks.modify lock (·.request number) }
      obtain ⟨w', hShows', hRuns⟩ := ih (w := asked) ⟨hShows.faultless, hShows.inventory, rfl⟩
      have hPoll : asked.poll number (.lock : World.Pending Inventory (.lock lock)) = (.inr (), asked) := by
        rw [World.poll_lock, if_pos hHeld]
      exact ⟨w', hShows', .head (.set hNumber (.enter (hFree w)))
        (.head (.set hNumber (.answer (hFree asked) hPoll)) hRuns)⟩

/-- The same as a move of a thread of a system. -/
theorem runs_set {α : Type} {p q : Procedure α} {scene' : Scene} (h : Solo number p scene q scene')
    {w : World Inventory} (hShows : w.Shows scene) {threads : List (Thread Inventory α)}
    (hThread : threads[number]? = some ⟨.background, .running p⟩) :
    ∃ w', w'.Shows scene' ∧ System.Runs Inventory.calm ⟨w, threads⟩
      ⟨w', threads.set number ⟨.background, .running q⟩⟩ := by
  obtain ⟨w', hShows', hRuns⟩ := h.runs hShows (List.getElem?_eq_some_iff.1 hThread).1
  rw [set_of_getElem? hThread] at hRuns
  exact ⟨w', hShows', hRuns⟩

/-- The rules of a system of one thread: its stage is the scene that the world shows. -/
def rules : Rules Inventory Scene where
  invariant w stages := ∃ s, stages = [s] ∧ w.Shows s
  aborts := False

/-- A change of the world that carries the only thread to another scene. -/
theorem leads (s' : Scene) {w w' : World Inventory} {after : Scene → Prop}
    (h : w.Shows s → w'.Shows s' ∧ after s') : rules.Leads 0 s w w' after := by
  rintro stages ⟨s, rfl, hShows⟩ hStage
  obtain rfl := Option.some.inj hStage
  exact ⟨s', ⟨s', rfl, (h hShows).1⟩, (h hShows).2⟩

/-- Alone in a system, a thread can do nothing else. -/
theorem follows {goal : α → Scene → Prop} (h : Solo 0 p s q s') (hGoal : rules.Follows 0 goal q s') :
    rules.Follows 0 goal p s := by
  induction h with
  | refl p s => exact hGoal
  | @act action next q s s' _ ih =>
      intro w stages hInvariant hStage
      have hPerform : rules.Leads 0 s w (w.perform action).2 fun s' =>
          rules.Follows 0 goal (next (w.perform action).1) s' :=
        leads _ fun hShows => by
          obtain ⟨hAnswer, hNext⟩ := hShows.perform action
          rw [hAnswer]
          exact ⟨hNext, ih hGoal⟩
      exact hPerform stages hInvariant hStage
  | @call c next q s s' _ ih =>
      refine .awaitCall s False.elim (fun w => leads s fun hShows => ⟨hShows.start c, rfl⟩) False.elim ?_
      intro w started
      refine leads (s.after c) fun hShows => ⟨hShows.finish c started, ?_⟩
      rw [hShows.reply_finish]
      exact ih hGoal
  | @listings dcs next q s s' _ ih =>
      refine ⟨False.elim, fun g pending => g = s ∧ ∃ slots, pending = .listings slots ∧
        List.Forall₂ (World.Slot.Fits s) slots dcs, ?_, ?_⟩
      · intro w
        refine leads s fun hShows => ?_
        obtain ⟨hSlots, hOpened⟩ := World.fits_startSlots hShows dcs
        exact ⟨hOpened, rfl, _, rfl, hSlots⟩
      · rintro g _ ⟨hg, slots, rfl, hSlots⟩
        subst g
        refine ⟨False.elim, ?_, ?_⟩
        · intro w answer w' hPoll
          refine leads s fun hShows => ?_
          obtain ⟨hPolled, hFinal⟩ := World.fits_pollSlots hShows hSlots
          obtain ⟨hReplies, rfl⟩ := World.answer_of_poll_listings hPoll
          obtain rfl := World.eq_listings_of_replies? hPolled hReplies
          exact ⟨hFinal, ih hGoal⟩
        · intro w pending' w' hPoll
          refine leads s fun hShows => ?_
          obtain ⟨hPolled, hFinal⟩ := World.fits_pollSlots hShows hSlots
          obtain ⟨rfl, rfl⟩ := World.pending_of_poll_listings hPoll
          exact ⟨hFinal, rfl, _, rfl, hPolled⟩
  | @lock lock next q s s' hHeld _ ih =>
      let asked : Scene := { s with locks := s.locks.modify lock (·.request 0) }
      refine .awaitLock asked False.elim (fun w => leads asked fun hShows => ?_) False.elim fun w _ =>
        leads asked fun hShows => ⟨hShows, ih hGoal⟩
      exact ⟨⟨hShows.faultless, hShows.inventory, congrArg (·.modify lock (·.request 0)) hShows.locks⟩, rfl⟩

theorem covers : rules.Covers Inventory.calm where
  aborts := id
  clock := by
    rintro w stages now - ⟨s, rfl, hShows⟩
    exact ⟨s, rfl, hShows.clock now⟩
  cancel := by
    rintro w stages token ⟨s, rfl, hShows⟩
    exact ⟨s, rfl, hShows.faultless, hShows.inventory, hShows.locks⟩
  command := by
    rintro w stages c hCommand ⟨s, rfl, hShows⟩
    exact ⟨s, rfl, hShows.faultless.obey hCommand.2,
      (Inventory.cleared_obey w.platform hCommand.1).trans hShows.inventory, hShows.locks⟩

/-- Alone in a system, a procedure can end in one way only. -/
theorem eq_of_result {a b : α} (h : Solo 0 p s (.done a) s') {w : World Inventory} (hShows : w.Shows s)
    {ctx : Context} {final : System Inventory α}
    (hRuns : System.Runs Inventory.calm (System.start w [(ctx, p)]) final)
    (hResult : final.result? 0 = some b) : b = a ∧ final.world.Shows s' := by
  have hStart : (System.start w [(ctx, p)]).Follows rules (fun _ b stage => b = a ∧ stage = s')
      (List.replicate [(ctx, p)].length s) := by
    refine .startTogether ⟨s, rfl, hShows⟩ fun number job hJob => ?_
    cases number with
    | zero =>
        obtain rfl := Option.some.inj hJob
        exact h.follows ⟨rfl, rfl⟩
    | succ number => cases hJob
  obtain ⟨stages, hFollows⟩ := hStart.runs covers hRuns
  obtain ⟨stage, hStage, rfl, rfl⟩ := hFollows.goal_of_result hResult
  obtain ⟨s', rfl, hShows'⟩ := hFollows.invariant
  obtain rfl := Option.some.inj hStage
  exact ⟨rfl, hShows'⟩

end Solo

end VolumeController

import VolumeController.Proofs.Interleaving.Chronicles
import VolumeController.Proofs.Inventory.Cleared
/-! The steps of a chronicle over an inventory. A step obeys a command, or it lets one thread hear the reply of one
call and the call take effect, or it leaves disks and attachments as they are. -/

namespace VolumeController

namespace World

variable (w : World Inventory)

/-- Listings leave everything but faults as it is. -/
theorem cleared_pollSlot (slot : Slot Inventory) :
    (w.pollSlot slot).2.platform.cleared = w.platform.cleared := by
  cases slot with
  | answered reply => rfl
  | waiting dc started =>
      simp only [pollSlot]
      split
      · have hEffect := Inventory.effect_finish w.platform (.listDisks dc) started.ticket
        exact congrArg Inventory.cleared (hEffect.eq_of_reads rfl)
      · rfl

theorem cleared_pollSlots (slots : List (Slot Inventory)) :
    (w.pollSlots slots).2.platform.cleared = w.platform.cleared := by
  induction slots generalizing w with
  | nil => rfl
  | cons slot slots ih => exact (ih _).trans (w.cleared_pollSlot slot)

theorem cleared_startSlots (dcs : List Datacenter) :
    (w.startSlots dcs).2.platform.cleared = w.platform.cleared := by
  induction dcs generalizing w with
  | nil => rfl
  | cons dc dcs ih =>
      have hStarted : (w.start (.listDisks dc)).2.platform.cleared = w.platform.cleared :=
        Inventory.cleared_start w.platform (.listDisks dc)
      have hPolled := cleared_pollSlot (w.start (.listDisks dc)).2 (.waiting dc (w.start (.listDisks dc)).1)
      rw [← hStarted, ← hPolled, startSlots]
      exact ih _

theorem cleared_openWait (task : Nat) (wait : Wait) :
    (w.openWait task wait).2.platform.cleared = w.platform.cleared := by
  cases wait with
  | call c => exact Inventory.cleared_start w.platform c
  | listings dcs => exact w.cleared_startSlots dcs
  | lock lock => rfl
  | work duration => rfl

/-- To look at a wait changes nothing, except that a call may take effect by it. -/
theorem poll_cases (task : Nat) {wait : Wait} (pending : Pending Inventory wait) :
    ((w.poll task pending).2.platform.cleared = w.platform.cleared ∧
      ∀ call reply, (w.poll task pending).1.map id (fun answer => (⟨wait, .ok answer⟩ : Exchange)) ≠
        .inr ⟨.call call, .ok reply⟩) ∨
    ∃ call ticket, (w.poll task pending).1.map id (fun answer => (⟨wait, .ok answer⟩ : Exchange)) =
        .inr ⟨.call call, .ok (Platform.finish call ticket w.platform).1⟩ ∧
      (w.poll task pending).2.platform = (Platform.finish call ticket w.platform).2.2 := by
  cases pending with
  | @call call started =>
      rcases w.poll_call task started with hDone | hEarly
      · rw [hDone]
        exact .inr ⟨call, started.ticket, rfl, rfl⟩
      · rw [hEarly]
        exact .inl ⟨rfl, fun _ _ h => by cases h⟩
  | listings slots =>
      refine .inl ⟨?_, fun _ _ h => ?_⟩
      · simp only [poll]
        split <;> exact w.cleared_pollSlots slots
      · cases hAnswer : (w.poll task (.listings slots)).1 <;> rw [hAnswer] at h <;> cases h
  | lock =>
      refine .inl ⟨rfl, fun _ _ h => ?_⟩
      cases hAnswer : (w.poll task .lock).1 <;> rw [hAnswer] at h <;> cases h
  | work due =>
      refine .inl ⟨rfl, fun _ _ h => ?_⟩
      cases hAnswer : (w.poll task (.work due)).1 <;> rw [hAnswer] at h <;> cases h

end World

/-- What a step of a thread does to an inventory: a call that it waited for takes effect, with the reply that it
hears, or disks and attachments stay. -/
theorem Thread.Step.inventory_cases {α : Type} {aborts : Prop} {number : Nat} {t t' : Thread Inventory α}
    {w w' : World Inventory} (h : t.Step aborts number w t' w') :
    (w'.platform.cleared = w.platform.cleared ∧
      ∀ call reply, t.hears number w ≠ some ⟨.call call, .ok reply⟩) ∨
    ∃ call ticket, t.hears number w = some ⟨.call call, .ok (Platform.finish call ticket w.platform).1⟩ ∧
      w'.platform = (Platform.finish call ticket w.platform).2.2 := by
  cases h with
  | act action next =>
      refine .inl ⟨?_, fun _ _ h => by cases h⟩
      cases action <;> rfl
  | refuse _ hAbort =>
      refine .inl ⟨rfl, fun _ _ h => ?_⟩
      simp only [hears, hAbort, Option.map_some] at h
      cases h
  | enter hAbort =>
      refine .inl ⟨w.cleared_openWait number _, fun _ _ h => ?_⟩
      simp only [hears, hAbort, Option.map_none] at h
      cases h
  | @abandon ctx _ s abort _ hAbort =>
      obtain ⟨wait, pending, next⟩ := s
      refine .inl ⟨by cases wait <;> rfl, fun _ _ h => ?_⟩
      simp only [hears, hAbort, Option.some.injEq] at h
      cases h
  | @linger ctx _ _ s pending hAbort hPoll =>
      have hCases := w.poll_cases number s.pending
      simp only [hPoll, Sum.map_inl, reduceCtorEq, false_and, exists_false, or_false] at hCases
      refine .inl ⟨hCases.1, fun _ _ h => ?_⟩
      simp only [hears, hAbort, hPoll] at h
      cases h
  | @answer ctx _ _ s answer hAbort hPoll =>
      have hCases := w.poll_cases number s.pending
      simpa only [hPoll, Sum.map_inr, ne_eq, Sum.inr.injEq, hears, hAbort, Option.some.injEq] using hCases

namespace Chronicle

variable {α : Type} {c c' : Chronicle Inventory α} {number : Nat}

/-- What a step does to an inventory where nothing is put by commands: a call takes effect, and its reply is heard,
or disks and attachments stay, and no reply is heard. -/
theorem Step.inventory_cases (h : Step Inventory.rough c c') :
    (c'.platform.cleared = c.platform.cleared ∧ (c'.turns = c.turns ∨ ∃ turn, c'.turns = turn :: c.turns ∧
      ∀ call reply, turn.heard ≠ some ⟨.call call, .ok reply⟩)) ∨
    ∃ number call ticket, c'.turns =
        ⟨number, some ⟨.call call, .ok (Platform.finish call ticket c.platform).1⟩⟩ :: c.turns ∧
      c'.platform = (Platform.finish call ticket c.platform).2.2 := by
  cases h with
  | clock => exact .inl ⟨rfl, .inl rfl⟩
  | cancel => exact .inl ⟨rfl, .inl rfl⟩
  | command command hCommand => exact .inl ⟨Inventory.cleared_obey c.platform hCommand, .inl rfl⟩
  | @turn number t t' w' hThread hStep =>
      rcases hStep.inventory_cases with ⟨hSame, hQuiet⟩ | ⟨call, ticket, hHears, hEffect⟩
      · exact .inl ⟨hSame, .inr ⟨_, rfl, hQuiet⟩⟩
      · refine .inr ⟨number, call, ticket, ?_, hEffect⟩
        rw [hHears]
        rfl

/-- A reply is heard as its call takes effect. -/
theorem Step.effect_of_turn (h : Step Inventory.rough c c') {call : Call} {reply : call.Reply}
    (hTurn : c'.turns = ⟨number, some ⟨.call call, .ok reply⟩⟩ :: c.turns) :
    ∃ ticket, reply = (Platform.finish call ticket c.platform).1 ∧
      c'.platform = (Platform.finish call ticket c.platform).2.2 := by
  rcases h.inventory_cases with ⟨-, hSame | ⟨turn, hQuietTurn, hQuiet⟩⟩ | ⟨_, _, ticket, hEffectTurn, hEffect⟩
  · exact absurd (hTurn.symm.trans hSame) (List.cons_ne_self _ _)
  · obtain rfl := (List.cons.inj (hTurn.symm.trans hQuietTurn)).1
    exact absurd rfl (hQuiet call reply)
  · cases (List.cons.inj (hTurn.symm.trans hEffectTurn)).1
    exact ⟨ticket, rfl, hEffect⟩

/-- A reply was heard before, or it is heard now. -/
theorem Step.reply_cases (h : Step Inventory.rough c c') {call : Call} {reply : call.Reply}
    (hHeard : ⟨.call call, .ok reply⟩ ∈ c'.heardBy number) :
    ⟨.call call, .ok reply⟩ ∈ c.heardBy number ∨
      ∃ ticket, reply = (Platform.finish call ticket c.platform).1 ∧
        c'.platform = (Platform.finish call ticket c.platform).2.2 := by
  rcases h.heardBy_cases number with hSame | ⟨x, hTurn, hMore⟩
  · exact .inl (hSame ▸ hHeard)
  · rw [hMore] at hHeard
    rcases List.mem_append.1 hHeard with hOld | hNew
    · exact .inl hOld
    · obtain rfl := List.mem_singleton.1 hNew
      exact .inr (h.effect_of_turn hTurn)

/-- The same for the last thing that was heard. -/
theorem Step.last_cases (h : Step Inventory.rough c c') {call : Call} {reply : call.Reply}
    (hLast : (c'.heardBy number).getLast? = some ⟨.call call, .ok reply⟩) :
    (c.heardBy number).getLast? = some ⟨.call call, .ok reply⟩ ∨
      ∃ ticket, reply = (Platform.finish call ticket c.platform).1 ∧
        c'.platform = (Platform.finish call ticket c.platform).2.2 := by
  rcases h.heardBy_cases number with hSame | ⟨x, hTurn, hMore⟩
  · exact .inl (hSame ▸ hLast)
  · rw [hMore, List.getLast?_concat] at hLast
    obtain rfl := Option.some.inj hLast
    exact .inr (h.effect_of_turn hTurn)

end Chronicle

end VolumeController

import Mathlib.Data.List.Forall2
import VolumeController.Proofs.Interleaving.Chronicles
/-! Replies to listings that are waited for together, over any platform. Main result: a thread that hears such replies
hears one for each datacenter, in their order, and each is a reply of the platform to the listing of that datacenter. -/

namespace VolumeController

variable {σ α : Type}

/-- Whether a platform replies to a call like this, in some state. -/
def Call.GivenBy (σ : Type) [Platform σ] (c : Call) (reply : c.Reply) : Prop :=
  ∃ (ticket : Platform.Ticket σ) (state : σ), (Platform.finish c ticket state).1 = reply

/-! Waits. -/

namespace World

variable [Platform σ] {w w' : World σ}

/-- A listing of a datacenter that is not answered yet, or is answered by the platform. -/
inductive Slot.IsFor : Slot σ → Datacenter → Prop where
  | waiting (dc : Datacenter) (started : Started σ) : IsFor (.waiting dc started) dc
  | answered {dc : Datacenter} {reply : Except BackendError (List Disk)}
      (h : (Call.listDisks dc).GivenBy σ reply) : IsFor (.answered reply) dc

/-- A wait that has, if it is for listings, one for each datacenter. -/
def Pending.IsWhole : {wait : Wait} → Pending σ wait → Prop
  | .listings dcs, .listings slots => List.Forall₂ Slot.IsFor slots dcs
  | _, _ => True

theorem Slot.IsFor.poll {slot : Slot σ} {dc : Datacenter} (h : slot.IsFor dc) (w : World σ) :
    (w.pollSlot slot).1.IsFor dc := by
  cases h with
  | answered h => exact .answered h
  | waiting dc started =>
      simp only [pollSlot]
      split
      · exact .answered ⟨started.ticket, w.platform, rfl⟩
      · exact .waiting dc started

theorem isFor_startSlots (w : World σ) (dcs : List Datacenter) :
    List.Forall₂ Slot.IsFor (w.startSlots dcs).1 dcs := by
  induction dcs generalizing w with
  | nil => exact .nil
  | cons dc dcs ih => exact .cons (Slot.IsFor.poll (.waiting dc _) _) (ih _)

theorem isFor_pollSlots {slots : List (Slot σ)} {dcs : List Datacenter} (h : List.Forall₂ Slot.IsFor slots dcs)
    (w : World σ) : List.Forall₂ Slot.IsFor (w.pollSlots slots).1 dcs := by
  induction h generalizing w with
  | nil => exact .nil
  | cons hSlot _ ih => exact .cons (hSlot.poll w) (ih _)

theorem isWhole_openWait (w : World σ) (task : Nat) (wait : Wait) : (w.openWait task wait).1.IsWhole := by
  cases wait with
  | listings dcs => exact w.isFor_startSlots dcs
  | _ => trivial

theorem given_of_replies? {slots : List (Slot σ)} {dcs : List Datacenter}
    {replies : List (Except BackendError (List Disk))} (h : List.Forall₂ Slot.IsFor slots dcs)
    (hReplies : replies? slots = some replies) :
    List.Forall₂ (fun reply dc => (Call.listDisks dc).GivenBy σ reply) replies dcs := by
  induction h generalizing replies with
  | nil =>
      cases hReplies
      exact .nil
  | cons hSlot _ ih =>
      cases hSlot with
      | waiting => cases hReplies
      | answered hGiven =>
          obtain ⟨rest, hRest, rfl⟩ := Option.map_eq_some_iff.1 hReplies
          exact .cons hGiven (ih hRest)

/-- A wait that goes on. -/
theorem isWhole_of_poll {task : Nat} {wait : Wait} {pending pending' : Pending σ wait} (h : pending.IsWhole)
    (hPoll : w.poll task pending = (.inl pending', w')) : pending'.IsWhole := by
  cases pending with
  | @listings dcs slots =>
      obtain ⟨rfl, -⟩ := pending_of_poll_listings hPoll
      exact isFor_pollSlots h w
  | _ =>
      cases pending'
      trivial

end World

/-- Whether the answer to a wait for listings has, for each datacenter, a reply of the platform. -/
def Exchange.IsWhole (σ : Type) [Platform σ] : Exchange → Prop
  | ⟨.listings dcs, .ok replies⟩ => List.Forall₂ (fun reply dc => (Call.listDisks dc).GivenBy σ reply) replies dcs
  | _ => True

theorem Exchange.isWhole_of_abort [Platform σ] {wait : Wait} (abort : Abort) :
    Exchange.IsWhole σ ⟨wait, .error abort⟩ := by
  cases wait <;> trivial

/-- A wait that is answered. -/
theorem World.isWhole_of_answer [Platform σ] {w w' : World σ} {task : Nat} {wait : Wait} {pending : Pending σ wait}
    {answer : wait.Answer} (h : pending.IsWhole) (hPoll : w.poll task pending = (.inr answer, w')) :
    Exchange.IsWhole σ ⟨wait, .ok answer⟩ := by
  cases pending with
  | @listings dcs slots =>
      exact given_of_replies? (isFor_pollSlots h w) (answer_of_poll_listings hPoll).1
  | _ => trivial

/-! Threads. -/

/-- A thread whose wait, if it waits, is whole. -/
def Thread.IsWhole [Platform σ] (t : Thread σ α) : Prop :=
  match t.progress with
  | .running _ => True
  | .waiting s => s.pending.IsWhole

/-- A step of a thread keeps its wait whole, and what is heard by it is whole. -/
theorem Thread.Step.isWhole [Platform σ] {aborts : Prop} {number : Nat} {t t' : Thread σ α} {w w' : World σ}
    (hStep : t.Step aborts number w t' w') (h : t.IsWhole) :
    t'.IsWhole ∧ ∀ x ∈ t.hears number w, x.IsWhole σ := by
  cases hStep with
  | act action next => exact ⟨trivial, fun _ hHeard => by cases hHeard⟩
  | refuse _ hAbort =>
      refine ⟨trivial, ?_⟩
      simp only [hears, hAbort]
      rintro _ ⟨⟩
      exact Exchange.isWhole_of_abort _
  | enter hAbort =>
      refine ⟨w.isWhole_openWait number _, ?_⟩
      simp only [hears, hAbort]
      rintro _ ⟨⟩
  | abandon _ hAbort =>
      refine ⟨trivial, ?_⟩
      simp only [hears, hAbort]
      rintro _ ⟨⟩
      exact Exchange.isWhole_of_abort _
  | answer hAbort hPoll =>
      refine ⟨trivial, ?_⟩
      simp only [hears, hAbort, hPoll]
      rintro _ ⟨⟩
      exact World.isWhole_of_answer h hPoll
  | linger hAbort hPoll =>
      refine ⟨World.isWhole_of_poll h hPoll, ?_⟩
      simp only [hears, hAbort, hPoll]
      rintro _ ⟨⟩

/-- Whatever threads hear is whole. -/
theorem Chronicle.Runs.isWhole [Bench σ] {env : Surroundings σ} {kind : Chronicle σ α → Chronicle σ α → Prop}
    {w : World σ} {jobs : List (Context × Procedure α)} {c : Chronicle σ α} (h : Runs env kind (.start w jobs) c)
    (number : Nat) : (∀ t ∈ c.system.threads[number]?, t.IsWhole) ∧ ∀ x ∈ c.heardBy number, x.IsWhole σ := by
  induction h with
  | refl =>
      refine ⟨fun t hThread => ?_, fun x hx => (List.not_mem_nil hx).elim⟩
      obtain ⟨job, -, rfl⟩ := Option.map_eq_some_iff.1 (List.getElem?_map ▸ hThread)
      trivial
  | tail _ hLast ih =>
      obtain ⟨hWaits, hHeard⟩ := ih
      rcases hLast.1.own_cases number with ⟨hThread, hSame⟩ | ⟨t, t', w', hThread, hOwn, hThread', hMore⟩
      · rw [hThread, hSame]
        exact ⟨hWaits, hHeard⟩
      · obtain ⟨hWait, hNew⟩ := hOwn.isWhole (hWaits t hThread)
        rw [hThread', hMore]
        refine ⟨by rintro _ ⟨⟩; exact hWait, List.forall_mem_append.2 ⟨hHeard, fun x hx => hNew x ?_⟩⟩
        exact Option.mem_toList.1 hx

end VolumeController

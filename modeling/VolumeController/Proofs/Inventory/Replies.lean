import Mathlib.Data.List.Forall2
import VolumeController.Proofs.Failures.Alone
import VolumeController.Proofs.Interleaving.Courses
/-! Where the replies of an inventory come from. A call is replied with what the inventory shows when the call is
finished, and listings that are waited for together are finished one by one. Main result: whatever a thread has heard
of an inventory is what the inventory showed at moments after the thread heard what came before. -/

namespace VolumeController

variable {α : Type}

namespace Inventory

/-- What a call is replied with now. -/
def reply (inv : Inventory) (c : Call) : c.Reply :=
  match (inv.faultsOf c).failure? c.kind with
  | some failure => .error failure
  | none => (inv.answer c).1

theorem fst_finish (inv : Inventory) (c : Call) (ticket : Platform.Ticket Inventory) :
    (Platform.finish c ticket inv).1 = inv.reply c := by
  simp only [Platform.finish, reply]
  cases (inv.faultsOf c).failure? c.kind <;> rfl

/-- A change of faults reaches a call or it does not. -/
theorem faultsOf_modifyFaults (inv : Inventory) (dc : Option Datacenter) (f : Faults → Faults) (c : Call) :
    (inv.modifyFaults dc f).faultsOf c = inv.faultsOf c ∨
      (inv.modifyFaults dc f).faultsOf c = f (inv.faultsOf c) := by
  simp only [faultsOf]
  cases dc with
  | none =>
      cases c.datacenter? with
      | none => exact .inr rfl
      | some dc => exact .inl rfl
  | some dc =>
      cases c.datacenter? with
      | none => exact .inl rfl
      | some dc' =>
          simp only [modifyFaults, modify, state?, List.getElem?_modify]
          cases inv.datacenters[dc'.place]? with
          | none => exact .inl rfl
          | some s =>
              by_cases hPlace : dc.place = dc'.place
              · exact .inr (by simp [hPlace])
              · exact .inl (by simp [hPlace])

/-- The beginning of a call changes no reply. -/
theorem reply_start (inv : Inventory) (started c : Call) : (Platform.start started inv).2.2.reply c = inv.reply c := by
  have hAnswer : ((Platform.start started inv).2.2.answer c).1 = (inv.answer c).1 := by
    have hSame := congrArg (fun cleared : Inventory => (cleared.answer c).1) (cleared_start inv started)
    simpa only [answer_cleared] using hSame
  have hFaults : ((Platform.start started inv).2.2.faultsOf c).failure? c.kind =
      (inv.faultsOf c).failure? c.kind := by
    rcases inv.faultsOf_modifyFaults started.datacenter? (·.enter started.kind) c with hSame | hEntered
    · exact congrArg (·.failure? c.kind) hSame
    · exact congrArg (·.failure? c.kind) hEntered
  simp only [reply, hFaults, hAnswer]

end Inventory

/-! Listings that are waited for. -/

namespace World

/-- A listing that is not answered yet, or was answered at one of some moments. -/
inductive Slot.ShownBy (moments : Inventory → Prop) : Slot Inventory → Datacenter → Prop where
  | waiting (dc : Datacenter) (started : Started Inventory) : ShownBy moments (.waiting dc started) dc
  | answered (dc : Datacenter) {inv : Inventory} (h : moments inv) :
      ShownBy moments (.answered (inv.reply (.listDisks dc))) dc

/-- A wait whose listings, if it is for listings, were answered at some moments. -/
def Pending.ShownBy (moments : Inventory → Prop) : {wait : Wait} → Pending Inventory wait → Prop
  | .listings dcs, .listings slots => List.Forall₂ (Slot.ShownBy moments) slots dcs
  | _, _ => True

variable {w : World Inventory} {inv : Inventory} {moments moments' : Inventory → Prop}

theorem Slot.ShownBy.mono {slot : Slot Inventory} {dc : Datacenter} (h : slot.ShownBy moments dc)
    (hMoments : ∀ inv, moments inv → moments' inv) : slot.ShownBy moments' dc := by
  cases h with
  | waiting dc started => exact .waiting dc started
  | answered dc h => exact .answered dc (hMoments _ h)

theorem Pending.ShownBy.mono {wait : Wait} {pending : Pending Inventory wait} (h : pending.ShownBy moments)
    (hMoments : ∀ inv, moments inv → moments' inv) : pending.ShownBy moments' := by
  cases pending with
  | listings slots => exact List.Forall₂.imp (fun _ _ hSlot => hSlot.mono hMoments) h
  | _ => trivial

/-- In the middle of a step the inventory replies as it did before. -/
theorem Slot.ShownBy.poll {slot : Slot Inventory} {dc : Datacenter} (h : slot.ShownBy moments dc)
    (hInv : moments inv) (hSame : ∀ c, w.platform.reply c = inv.reply c) :
    (w.pollSlot slot).1.ShownBy moments dc ∧ ∀ c, (w.pollSlot slot).2.platform.reply c = inv.reply c := by
  cases h with
  | answered dc h => exact ⟨.answered dc h, hSame⟩
  | waiting dc started =>
      simp only [pollSlot]
      split
      · have hReply : (w.finish (.listDisks dc) started).1 = inv.reply (.listDisks dc) :=
          (w.platform.fst_finish _ started.ticket).trans (hSame _)
        have hPlatform : (w.finish (.listDisks dc) started).2.platform = w.platform :=
          (Inventory.effect_finish w.platform _ started.ticket).eq_of_reads rfl
        rw [hReply, hPlatform]
        exact ⟨.answered dc hInv, hSame⟩
      · exact ⟨.waiting dc started, hSame⟩

theorem shownBy_startSlots (hInv : moments inv) (hSame : ∀ c, w.platform.reply c = inv.reply c)
    (dcs : List Datacenter) : List.Forall₂ (Slot.ShownBy moments) (w.startSlots dcs).1 dcs := by
  induction dcs generalizing w with
  | nil => exact .nil
  | cons dc dcs ih =>
      have hStarted (c : Call) : (w.start (.listDisks dc)).2.platform.reply c = inv.reply c :=
        (w.platform.reply_start _ c).trans (hSame c)
      obtain ⟨hFirst, hNext⟩ := (Slot.ShownBy.waiting dc (w.start (.listDisks dc)).1).poll hInv hStarted
      exact .cons hFirst (ih hNext)

theorem shownBy_pollSlots (hInv : moments inv) (hSame : ∀ c, w.platform.reply c = inv.reply c)
    {slots : List (Slot Inventory)} {dcs : List Datacenter} (h : List.Forall₂ (Slot.ShownBy moments) slots dcs) :
    List.Forall₂ (Slot.ShownBy moments) (w.pollSlots slots).1 dcs := by
  induction h generalizing w with
  | nil => exact .nil
  | cons hSlot _ ih =>
      obtain ⟨hFirst, hNext⟩ := hSlot.poll hInv hSame
      exact .cons hFirst (ih hNext)

theorem shownBy_openWait (hInv : moments w.platform) (task : Nat) (wait : Wait) :
    (w.openWait task wait).1.ShownBy moments := by
  cases wait with
  | listings dcs => exact shownBy_startSlots hInv (fun _ => rfl) dcs
  | _ => trivial

/-- Replies that are all there come one by one from some moments. -/
theorem forall₂_of_replies? {slots : List (Slot Inventory)} {dcs : List Datacenter}
    {replies : List (Except BackendError (List Disk))} (h : List.Forall₂ (Slot.ShownBy moments) slots dcs)
    (hReplies : replies? slots = some replies) :
    List.Forall₂ (fun reply dc => ∃ inv, moments inv ∧ reply = inv.reply (.listDisks dc)) replies dcs := by
  induction h generalizing replies with
  | nil =>
      cases hReplies
      exact .nil
  | cons hSlot _ ih =>
      cases hSlot with
      | waiting => cases hReplies
      | answered dc hInv =>
          obtain ⟨rest, hRest, rfl⟩ := Option.map_eq_some_iff.1 hReplies
          exact .cons ⟨_, hInv, rfl⟩ (ih hRest)

end World

/-- Whether an answer of the platform comes from some moments; each of several listings may come from its own. -/
def Exchange.ComesFrom (moments : Inventory → Prop) : Exchange → Prop
  | ⟨.call c, .ok reply⟩ => ∃ inv, moments inv ∧ reply = inv.reply c
  | ⟨.listings dcs, .ok replies⟩ =>
    List.Forall₂ (fun reply dc => ∃ inv, moments inv ∧ reply = inv.reply (.listDisks dc)) replies dcs
  | _ => True

theorem Exchange.ComesFrom.mono {moments moments' : Inventory → Prop} {x : Exchange} (h : x.ComesFrom moments)
    (hMoments : ∀ inv, moments inv → moments' inv) : x.ComesFrom moments' := by
  obtain ⟨wait, abort | answer⟩ := x
  · cases wait <;> trivial
  · cases wait with
    | call c =>
        obtain ⟨inv, hInv, hReply⟩ := h
        exact ⟨inv, hMoments inv hInv, hReply⟩
    | listings dcs =>
        refine List.Forall₂.imp (fun _ _ => ?_) h
        rintro ⟨inv, hInv, hReply⟩
        exact ⟨inv, hMoments inv hInv, hReply⟩
    | _ => trivial

/-- An abort comes from nowhere. -/
theorem Exchange.ComesFrom.of_abort {moments : Inventory → Prop} {wait : Wait} (abort : Abort) :
    Exchange.ComesFrom moments ⟨wait, .error abort⟩ := by
  cases wait <;> trivial

namespace World

variable {w : World Inventory} {moments : Inventory → Prop}

/-- A wait that is answered now, with listings that may have been answered before. -/
theorem comesFrom_of_poll {task : Nat} {wait : Wait} {pending : Pending Inventory wait} (h : pending.ShownBy moments)
    (hInv : moments w.platform) {answer : wait.Answer} {w' : World Inventory}
    (hPoll : w.poll task pending = (.inr answer, w')) : Exchange.ComesFrom moments ⟨wait, .ok answer⟩ := by
  cases pending with
  | @call c started =>
      exact ⟨_, hInv, (answer_of_poll_call hPoll).1.trans (w.platform.fst_finish c started.ticket)⟩
  | @listings dcs slots =>
      have hPolled := shownBy_pollSlots hInv (fun _ => rfl) h
      exact forall₂_of_replies? hPolled (answer_of_poll_listings hPoll).1
  | lock => trivial
  | work due => trivial

/-- A wait that goes on. -/
theorem shownBy_of_poll {task : Nat} {wait : Wait} {pending pending' : Pending Inventory wait}
    (h : pending.ShownBy moments) (hInv : moments w.platform) {w' : World Inventory}
    (hPoll : w.poll task pending = (.inl pending', w')) : pending'.ShownBy moments := by
  cases pending with
  | @listings dcs slots =>
      have hPolled := shownBy_pollSlots hInv (fun _ => rfl) h
      obtain ⟨rfl, -⟩ := pending_of_poll_listings hPoll
      exact hPolled
  | _ =>
      cases pending'
      trivial

end World

/-! Threads. -/

/-- What the inventory was at moments at which a thread had heard just this, and had not ended. -/
def ShownAt (history : List (Chronicle Inventory α)) (number : Nat) (told : List Exchange) (inv : Inventory) : Prop :=
  ∃ m ∈ history, m.heardBy number = told ∧ m.result? number = none ∧ m.platform = inv

/-- What a thread has heard, and the listings that it waits for, come from the moments of a history. Whatever it heard,
there was a moment before. -/
structure Informed (history : List (Chronicle Inventory α)) (number : Nat) (c : Chronicle Inventory α) : Prop where
  pending : ∀ ctx s, c.system.threads[number]? = some ⟨ctx, .waiting s⟩ →
    s.pending.ShownBy (ShownAt history number (c.heardBy number))
  heard : ∀ before x, before ++ [x] <+: c.heardBy number →
    (∃ inv, ShownAt history number before inv) ∧ x.ComesFrom (ShownAt history number before)

namespace Informed

variable {history : List (Chronicle Inventory α)} {number : Nat} {c c' : Chronicle Inventory α}
  {env : Surroundings Inventory}

theorem start {w : World Inventory} {jobs : List (Context × Procedure α)} :
    Informed history number (.start w jobs) where
  pending := by
    intro ctx s hThread
    obtain ⟨job, -, hStart⟩ := Option.map_eq_some_iff.1 (List.getElem?_map ▸ hThread)
    cases hStart
  heard := fun before x hPrefix =>
    absurd (List.prefix_nil.1 hPrefix) (List.append_ne_nil_of_right_ne_nil before (List.cons_ne_nil x []))

/-- A thread that hears nothing new. -/
theorem unheard (h : Informed history number c) (hHeard : c'.heardBy number = c.heardBy number)
    (hPending : ∀ ctx s, c'.system.threads[number]? = some ⟨ctx, .waiting s⟩ →
      s.pending.ShownBy (ShownAt history number (c.heardBy number))) : Informed history number c' where
  pending := by
    rw [hHeard]
    exact hPending
  heard := by
    rw [hHeard]
    exact h.heard

/-- A thread that is answered, by the moment before the step or by earlier ones. -/
theorem concat (h : Informed history number c) {x : Exchange} {ctx : Context} {p : Procedure α}
    (hHeard : c'.heardBy number = c.heardBy number ++ [x])
    (hThread : c'.system.threads[number]? = some ⟨ctx, .running p⟩)
    (hNow : ShownAt history number (c.heardBy number) c.platform)
    (hNew : x.ComesFrom (ShownAt history number (c.heardBy number))) : Informed history number c' where
  pending ctx s hWaiting := by cases hThread.symm.trans hWaiting
  heard before y hPrefix := by
    rw [hHeard] at hPrefix
    rcases List.prefix_concat_iff.1 hPrefix with hSame | hOld
    · obtain ⟨rfl, hLast⟩ := List.append_inj' hSame rfl
      cases hLast
      exact ⟨⟨_, hNow⟩, hNew⟩
    · exact h.heard before y hOld

theorem step (h : Informed history number c) (hMoment : c ∈ history) (hStep : Chronicle.Step env c c') :
    Informed history number c' := by
  rcases hStep.own_cases number with ⟨hThread, hHeard⟩ | ⟨t, t', w', hThread, hOwn, hThread', hHeard⟩
  · exact h.unheard hHeard fun ctx s hWaiting => h.pending ctx s (hThread.symm.trans hWaiting)
  · have hResult : c.result? number = none := (System.result?_of_thread hThread).trans hOwn.result?_eq_none
    have hNow : ShownAt history number (c.heardBy number) c.system.world.platform :=
      ⟨c, hMoment, rfl, hResult, rfl⟩
    cases hOwn with
    | act action next =>
        refine h.unheard (hHeard.trans (List.append_nil _)) fun ctx s hWaiting => ?_
        cases hThread'.symm.trans hWaiting
    | @refuse ctx _ wait abort next _ hAbort =>
        have hMore : c'.heardBy number = c.heardBy number ++ [⟨wait, .error abort⟩] := by
          simpa only [Thread.hears, hAbort, Option.map_some, Option.toList_some] using hHeard
        exact h.concat hMore hThread' hNow (.of_abort abort)
    | @enter ctx _ wait next hAbort =>
        have hSame : c'.heardBy number = c.heardBy number := by
          simpa only [Thread.hears, hAbort, Option.map_none, Option.toList_none, List.append_nil] using hHeard
        refine h.unheard hSame fun ctx s hWaiting => ?_
        cases hThread'.symm.trans hWaiting
        exact World.shownBy_openWait hNow number wait
    | @abandon ctx _ s abort _ hAbort =>
        have hMore : c'.heardBy number = c.heardBy number ++ [⟨s.wait, .error abort⟩] := by
          simpa only [Thread.hears, hAbort, Option.toList_some] using hHeard
        exact h.concat hMore hThread' hNow (.of_abort abort)
    | @answer ctx _ _ s answer hAbort hPoll =>
        have hMore : c'.heardBy number = c.heardBy number ++ [⟨s.wait, .ok answer⟩] := by
          simpa only [Thread.hears, hAbort, hPoll, Option.toList_some] using hHeard
        exact h.concat hMore hThread' hNow (World.comesFrom_of_poll (h.pending ctx s hThread) hNow hPoll)
    | @linger ctx _ _ s pending hAbort hPoll =>
        have hSame : c'.heardBy number = c.heardBy number := by
          simpa only [Thread.hears, hAbort, hPoll, Option.toList_none, List.append_nil] using hHeard
        refine h.unheard hSame fun ctx s hWaiting => ?_
        cases hThread'.symm.trans hWaiting
        exact World.shownBy_of_poll (h.pending ctx s hThread) hNow hPoll

theorem mono {more : List (Chronicle Inventory α)} (h : Informed history number c) (hMore : history ⊆ more) :
    Informed more number c := by
  have hShown (told : List Exchange) (inv : Inventory) :
      ShownAt history number told inv → ShownAt more number told inv :=
    fun ⟨m, hMoment, hHeard⟩ => ⟨m, hMore hMoment, hHeard⟩
  exact ⟨fun ctx s hWaiting => (h.pending ctx s hWaiting).mono (hShown _),
    fun before x hPrefix => (h.heard before x hPrefix).imp (Exists.imp (hShown before)) (·.mono (hShown before))⟩

end Informed

/-- Every thread is informed by the moments that there were. -/
theorem Course.informed {env : Surroundings Inventory} {w : World Inventory} {jobs : List (Context × Procedure α)}
    {c : Chronicle Inventory α} {earlier : List (Chronicle Inventory α)}
    (h : Course env (.start w jobs) (c :: earlier)) (number : Nat) : Informed (c :: earlier) number c := by
  generalize hHistory : c :: earlier = history at h
  induction h generalizing c earlier with
  | begin =>
      cases hHistory
      exact .start
  | step _ hStep ih =>
      cases hHistory
      exact ((ih rfl).step List.mem_cons_self hStep).mono (List.subset_cons_self _ _)

end VolumeController

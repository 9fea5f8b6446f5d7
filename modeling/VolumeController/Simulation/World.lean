import VolumeController.Context
import VolumeController.Locks
import VolumeController.Metrics
import VolumeController.Platform
/-!
The world that procedures run in: a platform, a clock, locks, metrics and a log. Each wait is opened,
polled until it is answered, or given up; each of these steps is atomic.
-/

namespace VolumeController

/-- Everything that procedures share. The log and the trace of calls hold the latest entry first. -/
structure World (σ : Type) where
  platform : σ
  now : Nat := 0
  locks : NameLocks := {}
  metrics : Metrics := {}
  cancelled : List Nat := []
  log : List Event := []
  calls : List Call := []

namespace World

variable {σ : Type}

/-- Writes to the log. -/
def note (w : World σ) (event : Event) : World σ :=
  { w with log := event :: w.log }

/-- The longest delay, in milliseconds: thirty years of 365 days. -/
def longestDelay : Nat := 30 * 365 * 86400 * 1000

/-- The time at which a delay that begins now is over. One beyond the longest is cut to it. -/
def after (w : World σ) (delay : Nat) : Nat :=
  w.now + Nat.min delay longestDelay

/-- How a context ends a wait now. -/
def abort? (w : World σ) (ctx : Context) : Option Abort :=
  ctx.abort? w.cancelled w.now

variable [Platform σ]

/-- Does what a procedure does at once, on behalf of a task. -/
def perform (w : World σ) : (action : Action) → action.Answer × World σ
  | .note event => ((), w.note event)
  | .observe operation code => ((), { w with metrics := w.metrics.observe operation code })
  | .centers => (Platform.centers w.platform, w)
  | .takeHandle name =>
    let (lock, locks) := w.locks.takeHandle name
    (lock, { w with locks })
  | .unlock lock => ((), { w with locks := w.locks.modify lock Mutex.release })
  | .dropHandle lock => ((), { w with locks := w.locks.dropHandle lock })
  | .sweep name => ((), { w with locks := w.locks.sweep name })

/-- A started call: what the platform remembers of it, and when it can be finished. -/
structure Started (σ : Type) [Platform σ] where
  ticket : Platform.Ticket σ
  due : Nat

/-- Starts a call. -/
def start (w : World σ) (c : Call) : Started σ × World σ :=
  let (ticket, delay, platform) := Platform.start c w.platform
  (⟨ticket, w.after delay⟩, { w with platform, calls := c :: w.calls })

/-- Finishes a started call. -/
def finish (w : World σ) (c : Call) (started : Started σ) : c.Reply × World σ :=
  let (reply, events, platform) := Platform.finish c started.ticket w.platform
  (reply, { w with platform, log := events.reverse ++ w.log })

/-- One of several listings that are waited for together. -/
inductive Slot (σ : Type) [Platform σ] where
  | waiting (datacenter : Datacenter) (started : Started σ)
  | answered (reply : Except BackendError (List Disk))

/-- Finishes a listing whose time has come. -/
def pollSlot (w : World σ) : Slot σ → Slot σ × World σ
  | .waiting dc started =>
    if started.due ≤ w.now then
      let (reply, w) := w.finish (.listDisks dc) started
      (.answered reply, w)
    else (.waiting dc started, w)
  | slot => (slot, w)

/-- Finishes the listings whose time has come, in order. -/
def pollSlots (w : World σ) : List (Slot σ) → List (Slot σ) × World σ
  | [] => ([], w)
  | slot :: slots =>
    let (slot, w) := w.pollSlot slot
    let (slots, w) := w.pollSlots slots
    (slot :: slots, w)

/-- Starts listings in order; one that takes no time is finished before the next is started. -/
def startSlots (w : World σ) : List Datacenter → List (Slot σ) × World σ
  | [] => ([], w)
  | dc :: dcs =>
    let (started, w) := w.start (.listDisks dc)
    let (slot, w) := w.pollSlot (.waiting dc started)
    let (slots, w) := w.startSlots dcs
    (slot :: slots, w)

/-- The replies of listings, once all are there. -/
def replies? : List (Slot σ) → Option (List (Except BackendError (List Disk)))
  | [] => some []
  | .answered reply :: slots => (replies? slots).map (reply :: ·)
  | .waiting _ _ :: _ => none

/-- An opened wait. -/
inductive Pending (σ : Type) [Platform σ] : Wait → Type where
  | call {c : Call} (started : Started σ) : Pending σ (.call c)
  | listings {dcs : List Datacenter} (slots : List (Slot σ)) : Pending σ (.listings dcs)
  | lock {lock : LockId} : Pending σ (.lock lock)
  | work {duration : Option Nat} (due : Option Nat) : Pending σ (.work duration)

/-- Opens a wait on behalf of a task. -/
def openWait (w : World σ) (task : Nat) : (wait : Wait) → Pending σ wait × World σ
  | .call c =>
    let (started, w) := w.start c
    (.call started, w)
  | .listings dcs =>
    let (slots, w) := w.startSlots dcs
    (.listings slots, w)
  | .lock lock => (.lock, { w with locks := w.locks.modify lock (·.request task) })
  | .work duration => (.work (duration.map w.after), w)

/-- Looks whether a wait can be answered now. -/
def poll (w : World σ) (task : Nat) :
    {wait : Wait} → Pending σ wait → (Pending σ wait ⊕ wait.Answer) × World σ
  | .call c, .call started =>
    if started.due ≤ w.now then
      let (reply, w) := w.finish c started
      (.inr reply, w)
    else (.inl (.call started), w)
  | .listings _, .listings slots =>
    let (slots, w) := w.pollSlots slots
    match replies? slots with
    | some replies => (.inr replies, w)
    | none => (.inl (.listings slots), w)
  | .lock lock, .lock => (if w.locks.isHeldBy lock task then .inr () else .inl .lock, w)
  | .work _, .work due => (if due.any (· ≤ w.now) then .inr () else .inl (.work due), w)

/-- Gives up a wait. A started call is forgotten, a requested lock is not wanted any more. -/
def giveUp (w : World σ) (task : Nat) : (wait : Wait) → World σ
  | .lock lock => { w with locks := w.locks.modify lock (·.withdraw task) }
  | _ => w

theorem poll_call_of_le (w : World σ) (task : Nat) {c : Call} {started : Started σ}
    (h : started.due ≤ w.now) :
    w.poll task (.call started : Pending σ (.call c)) =
      (.inr (w.finish c started).1, (w.finish c started).2) :=
  if_pos h

/-- A call is finished or left as it is. -/
theorem poll_call (w : World σ) (task : Nat) {c : Call} (started : Started σ) :
    w.poll task (.call started : Pending σ (.call c)) =
        (.inr (w.finish c started).1, (w.finish c started).2) ∨
      w.poll task (.call started : Pending σ (.call c)) = (.inl (.call started), w) := by
  rcases Nat.lt_or_ge w.now started.due with hEarly | hDue
  · exact .inr (if_neg (Nat.not_le.2 hEarly))
  · exact .inl (w.poll_call_of_le task hDue)

theorem poll_lock (w : World σ) (task : Nat) {lock : LockId} :
    w.poll task (.lock : Pending σ (.lock lock)) =
      (if w.locks.isHeldBy lock task then .inr () else .inl .lock, w) :=
  rfl

section

variable {w w' : World σ} {task : Nat}

/-! What a look at a wait showed. -/

theorem answer_of_poll_call {c : Call} {started : Started σ} {reply : c.Reply}
    (h : w.poll task (.call started : Pending σ (.call c)) = (.inr reply, w')) :
    reply = (w.finish c started).1 ∧ w' = (w.finish c started).2 := by
  rcases w.poll_call task started with hDone | hEarly
  · cases hDone.symm.trans h
    exact ⟨rfl, rfl⟩
  · cases hEarly.symm.trans h

theorem pending_of_poll_call {c : Call} {started : Started σ} {pending : Pending σ (.call c)}
    (h : w.poll task (.call started : Pending σ (.call c)) = (.inl pending, w')) :
    pending = .call started ∧ w' = w := by
  rcases w.poll_call task started with hDone | hEarly
  · cases hDone.symm.trans h
  · cases hEarly.symm.trans h
    exact ⟨rfl, rfl⟩

theorem answer_of_poll_listings {dcs : List Datacenter} {slots : List (Slot σ)}
    {replies : List (Except BackendError (List Disk))}
    (h : w.poll task (.listings slots : Pending σ (.listings dcs)) = (.inr replies, w')) :
    replies? (w.pollSlots slots).1 = some replies ∧ w' = (w.pollSlots slots).2 := by
  simp only [poll] at h
  split at h
  · rename_i hReplies
    cases h
    exact ⟨hReplies, rfl⟩
  · cases h

theorem pending_of_poll_listings {dcs : List Datacenter} {slots : List (Slot σ)} {pending : Pending σ (.listings dcs)}
    (h : w.poll task (.listings slots : Pending σ (.listings dcs)) = (.inl pending, w')) :
    pending = .listings (w.pollSlots slots).1 ∧ w' = (w.pollSlots slots).2 := by
  simp only [poll] at h
  split at h
  · cases h
  · cases h
    exact ⟨rfl, rfl⟩

theorem answer_of_poll_lock {lock : LockId} {answer : Unit}
    (h : w.poll task (.lock : Pending σ (.lock lock)) = (.inr answer, w')) :
    w.locks.isHeldBy lock task ∧ w' = w := by
  rw [poll_lock] at h
  split at h
  · rename_i hHeld
    cases h
    exact ⟨hHeld, rfl⟩
  · cases h

theorem pending_of_poll_lock {lock : LockId} {pending : Pending σ (.lock lock)}
    (h : w.poll task (.lock : Pending σ (.lock lock)) = (.inl pending, w')) : pending = .lock ∧ w' = w := by
  rw [poll_lock] at h
  split at h
  · cases h
  · cases h
    exact ⟨rfl, rfl⟩

end

/-- The times at which a wait may be answered. -/
def Pending.dues : {wait : Wait} → Pending σ wait → List Nat
  | _, .call started => [started.due]
  | _, .listings slots => slots.filterMap fun
    | .waiting _ started => some started.due
    | .answered _ => none
  | _, .lock => []
  | _, .work due => due.toList

end World

end VolumeController

import VolumeController.Simulation.Interleaving
/-! Name locks while many threads use them. `Grip` says where one thread stands with the locks, and
`NameLocks.Agrees` what the table and the locks know of all grips: a handle is on the very lock that the
table has for the name, handles are counted, and the threads that hold or await a lock stand in its line.
Each operation on the locks keeps this when the thread changes its grip accordingly. -/

namespace VolumeController

/-- Where a thread stands with the name locks. -/
inductive Grip where
  | away
  /-- It has a handle and has not asked for the lock, or has let go of it. -/
  | loose (name : LockName) (lock : LockId)
  | queued (name : LockName) (lock : LockId)
  | inside (name : LockName) (lock : LockId)
  /-- It gave its handle back and has not looked yet whether the lock may leave the table. -/
  | leaving (name : LockName)
  deriving DecidableEq

namespace Grip

/-- The name whose lock the thread has a handle on, and the lock. -/
def handle? : Grip → Option (LockName × LockId)
  | .loose name lock | .queued name lock | .inside name lock => some (name, lock)
  | .away | .leaving _ => none

/-- Whether the thread holds or awaits the lock of a name. -/
def InLine (name : LockName) (lock : LockId) (g : Grip) : Prop :=
  g = .queued name lock ∨ g = .inside name lock

/-- Whether the thread will see to it that the name leaves the table with its lock. -/
def Keeps (name : LockName) (lock : LockId) (g : Grip) : Prop :=
  g.handle? = some (name, lock) ∨ g = .leaving name

@[simp] theorem not_inLine_away (name : LockName) (lock : LockId) : ¬ InLine name lock .away := by
  simp [InLine]

@[simp] theorem not_inLine_loose (name name' : LockName) (lock lock' : LockId) :
    ¬ InLine name lock (.loose name' lock') := by
  simp [InLine]

@[simp] theorem not_inLine_leaving (name name' : LockName) (lock : LockId) :
    ¬ InLine name lock (.leaving name') := by
  simp [InLine]

@[simp] theorem inLine_queued (name name' : LockName) (lock lock' : LockId) :
    InLine name lock (.queued name' lock') ↔ name' = name ∧ lock' = lock := by
  simp [InLine]

@[simp] theorem inLine_inside (name name' : LockName) (lock lock' : LockId) :
    InLine name lock (.inside name' lock') ↔ name' = name ∧ lock' = lock := by
  simp [InLine]

theorem InLine.handle? {name : LockName} {lock : LockId} {g : Grip} (h : g.InLine name lock) :
    g.handle? = some (name, lock) := by
  rcases h with rfl | rfl <;> rfl

end Grip

namespace Mutex

/-- The holder of a lock, if there is one, and behind it those who wait. -/
def line (m : Mutex) : List Nat :=
  m.holder.toList ++ m.waiters

/-- What one lock knows of all grips. -/
structure Serves (m : Mutex) (name : LockName) (lock : LockId) (grips : List Grip) : Prop where
  handles : m.handles = grips.countP (·.handle? = some (name, lock))
  line : ∀ i : Nat, i ∈ m.line ↔ ∃ g, grips[i]? = some g ∧ g.InLine name lock
  nodup : m.line.Nodup
  holder : ∀ i : Nat, grips[i]? = some (.inside name lock) → m.holder = some i
  idle : m.holder = none → m.waiters = []

@[simp] theorem line_handles (m : Mutex) (handles : Nat) : { m with handles }.line = m.line := rfl

theorem line_request (m : Mutex) (task : Nat) : (m.request task).line = m.line ++ [task] := by
  unfold request line
  split
  · rename_i hHolder hWaiters
    simp [hHolder, hWaiters]
  · simp

theorem holder_request {m : Mutex} {task other : Nat} (h : m.holder = some other) :
    (m.request task).holder = some other := by
  simp [request, h]

theorem idle_request {m : Mutex} (h : m.holder = none → m.waiters = []) (task : Nat)
    (hNone : (m.request task).holder = none) : (m.request task).waiters = [] := by
  unfold request at *
  split at * <;> simp_all

@[simp] theorem handles_request (m : Mutex) (task : Nat) : (m.request task).handles = m.handles := by
  unfold request
  split <;> rfl

@[simp] theorem line_release (m : Mutex) : m.release.line = m.waiters := by
  unfold release line
  split <;> simp_all

@[simp] theorem handles_release (m : Mutex) : m.release.handles = m.handles := by
  unfold release
  split <;> rfl

theorem idle_release (m : Mutex) : m.release.holder = none → m.release.waiters = [] := by
  unfold release
  split <;> simp_all

@[simp] theorem handles_withdraw (m : Mutex) (task : Nat) : (m.withdraw task).handles = m.handles := by
  unfold withdraw
  split <;> simp

theorem line_withdraw {m : Mutex} (h : m.line.Nodup) (task : Nat) :
    (m.withdraw task).line = m.line.filter (· != task) := by
  unfold withdraw
  split
  · rename_i hHolder
    rw [line_release]
    simp only [line, hHolder, Option.toList_some, List.singleton_append, List.nodup_cons] at h ⊢
    have hKeep : m.waiters.filter (· != task) = m.waiters := by
      rw [List.filter_eq_self]
      intro other hOther
      simpa using fun he : other = task => h.1 (he ▸ hOther)
    simp [hKeep]
  · rename_i hHolder
    cases hm : m.holder with
    | none => simp [line, hm]
    | some other =>
        have hOther : other ≠ task := fun he => hHolder (he ▸ hm)
        simp [line, hm, hOther]

theorem idle_withdraw {m : Mutex} (h : m.holder = none → m.waiters = []) (task : Nat)
    (hNone : (m.withdraw task).holder = none) : (m.withdraw task).waiters = [] := by
  by_cases hTask : m.holder = some task
  · simp only [withdraw, if_pos hTask] at hNone ⊢
    exact idle_release m hNone
  · simp only [withdraw, if_neg hTask] at hNone ⊢
    simp [h hNone]

namespace Serves

variable {m m' : Mutex} {name : LockName} {lock : LockId} {grips : List Grip} {i : Nat} {g g' : Grip}

/-- A new lock serves a name that nobody has a handle for. -/
theorem new (h : ∀ (j : Nat) g, grips[j]? = some g → g.handle? ≠ some (name, lock)) :
    ({} : Mutex).Serves name lock grips where
  handles := by
    refine (List.countP_eq_zero.2 fun g hg => ?_).symm
    obtain ⟨j, hj⟩ := List.mem_iff_getElem?.1 hg
    simpa using h j g hj
  line := by
    intro j
    simp only [Mutex.line, Option.toList_none, List.append_nil, List.not_mem_nil, false_iff]
    rintro ⟨g, hj, hInLine⟩
    exact h j g hj hInLine.handle?
  nodup := by simp [Mutex.line]
  holder j hj := absurd rfl (h j _ hj)
  idle _ := rfl

/-- A thread in the line of a lock has a handle on it. -/
theorem handle?_of_mem (h : m.Serves name lock grips) (hThread : grips[i]? = some g)
    (hLine : i ∈ m.line) : g.handle? = some (name, lock) := by
  obtain ⟨g', hThread', hInLine⟩ := (h.line i).1 hLine
  obtain rfl := Option.some.inj (hThread.symm.trans hThread')
  exact hInLine.handle?

/-- One thread changes its grip, and the lock changes to fit. -/
theorem set (h : m.Serves name lock grips) (hThread : grips[i]? = some g)
    (hHandles : m'.handles + (if g.handle? = some (name, lock) then 1 else 0) =
      m.handles + if g'.handle? = some (name, lock) then 1 else 0)
    (hLine : ∀ j, j ∈ m'.line ↔ if j = i then g'.InLine name lock else j ∈ m.line)
    (hNodup : m'.line.Nodup) (hHolder : ∀ j, j ≠ i → m.holder = some j → m'.holder = some j)
    (hInside : g' = .inside name lock → m'.holder = some i)
    (hIdle : m'.holder = none → m'.waiters = []) : m'.Serves name lock (grips.set i g') := by
  obtain ⟨hNumber, rfl⟩ := List.getElem?_eq_some_iff.1 hThread
  refine ⟨?_, ?_, hNodup, ?_, hIdle⟩
  · rw [List.countP_set hNumber]
    have hPos : (if grips[i].handle? = some (name, lock) then 1 else 0) ≤
        grips.countP (·.handle? = some (name, lock)) := by
      simpa using List.boole_getElem_le_countP hNumber (p := (·.handle? = some (name, lock)))
    have hCount := h.handles
    simp only [decide_eq_true_eq] at *
    omega
  · intro j
    rw [hLine]
    by_cases hj : j = i
    · subst hj
      simp [List.getElem?_set_self hNumber]
    · rw [if_neg hj, h.line, List.getElem?_set_ne (Ne.symm hj)]
  · intro j hGrip
    rcases getElem?_set_cases hGrip with ⟨rfl, hOwn⟩ | ⟨hOther, hGrip⟩
    · exact hInside hOwn.symm
    · exact hHolder j (Ne.symm hOther) (h.holder j hGrip)

/-- A lock that a thread has no part in does not notice its change. -/
theorem frame (h : m.Serves name lock grips) (hThread : grips[i]? = some g)
    (hOld : g.handle? ≠ some (name, lock)) (hNew : g'.handle? ≠ some (name, lock)) :
    m.Serves name lock (grips.set i g') := by
  refine h.set hThread (by simp [hOld, hNew]) ?_ h.nodup (fun _ _ hj => hj)
    (fun he => absurd (he ▸ rfl) hNew) h.idle
  intro j
  split
  · rename_i hj
    subst hj
    exact iff_of_false (fun hMem => hOld (h.handle?_of_mem hThread hMem))
      fun hInLine => hNew hInLine.handle?
  · rfl

theorem not_mem_line (h : m.Serves name lock grips) (hThread : grips[i]? = some g)
    (hOut : ¬ g.InLine name lock) : i ∉ m.line := by
  intro hMem
  obtain ⟨g', hThread', hInLine⟩ := (h.line i).1 hMem
  obtain rfl := Option.some.inj (hThread.symm.trans hThread')
  exact hOut hInLine

/-- A thread that holds the lock is at the head of its line. -/
theorem line_eq_cons (h : m.Serves name lock grips)
    (hThread : grips[i]? = some (.inside name lock)) : m.line = i :: m.waiters := by
  simp [Mutex.line, h.holder i hThread]

theorem take (h : m.Serves name lock grips) (hThread : grips[i]? = some .away) :
    ({ m with handles := m.handles + 1 } : Mutex).Serves name lock
      (grips.set i (.loose name lock)) := by
  have hOut : i ∉ m.line := h.not_mem_line hThread (by simp)
  refine h.set hThread (by simp [Grip.handle?]) ?_ h.nodup (fun _ _ hj => hj) (by simp) h.idle
  intro j
  split
  · rename_i hj
    subst hj
    simpa using hOut
  · rfl

theorem request (h : m.Serves name lock grips) (hThread : grips[i]? = some (.loose name lock)) :
    (m.request i).Serves name lock (grips.set i (.queued name lock)) := by
  have hOut : i ∉ m.line := h.not_mem_line hThread (by simp)
  refine h.set hThread (by simp [Grip.handle?]) ?_ ?_ (fun j _ hj => holder_request hj) (by simp)
    (idle_request h.idle i)
  · intro j
    rw [line_request]
    split <;> simp_all
  · rw [line_request, List.nodup_append]
    refine ⟨h.nodup, by simp, ?_⟩
    rintro a ha b hb rfl
    exact hOut (List.mem_singleton.1 hb ▸ ha)

/-- The holder learns that the lock is its own. -/
theorem grant (h : m.Serves name lock grips) (hThread : grips[i]? = some (.queued name lock))
    (hHolder : m.holder = some i) : m.Serves name lock (grips.set i (.inside name lock)) := by
  refine h.set hThread (by simp [Grip.handle?]) ?_ h.nodup (fun _ _ hj => hj) (fun _ => hHolder)
    h.idle
  intro j
  split
  · rename_i hj
    subst hj
    simp [Mutex.line, hHolder]
  · rfl

theorem withdraw (h : m.Serves name lock grips) (hThread : grips[i]? = some (.queued name lock)) :
    (m.withdraw i).Serves name lock (grips.set i (.loose name lock)) := by
  have hLine := line_withdraw h.nodup i
  refine h.set hThread (by simp [Grip.handle?]) ?_ ?_ ?_ (by simp) (idle_withdraw h.idle i)
  · intro j
    rw [hLine]
    split <;> simp_all
  · rw [hLine]
    exact h.nodup.filter _
  · intro j hj hHolder
    have hOther : m.holder ≠ some i := by simpa [hHolder] using hj
    simpa [Mutex.withdraw, hOther] using hHolder

theorem release (h : m.Serves name lock grips) (hThread : grips[i]? = some (.inside name lock)) :
    m.release.Serves name lock (grips.set i (.loose name lock)) := by
  have hLine := h.line_eq_cons hThread
  have hNodup := h.nodup
  rw [hLine, List.nodup_cons] at hNodup
  refine h.set hThread (by simp [Grip.handle?]) ?_ (by simpa using hNodup.2) ?_ (by simp)
    (idle_release m)
  · intro j
    rw [line_release, hLine]
    split <;> simp_all
  · intro j hj hHolder
    rw [h.holder i hThread] at hHolder
    exact absurd (Option.some.inj hHolder).symm hj

theorem drop (h : m.Serves name lock grips) (hThread : grips[i]? = some (.loose name lock)) :
    ({ m with handles := m.handles - 1 } : Mutex).Serves name lock
      (grips.set i (.leaving name)) := by
  have hOut : i ∉ m.line := h.not_mem_line hThread (by simp)
  have hPos : 0 < m.handles := by
    rw [h.handles, List.countP_pos_iff]
    exact ⟨_, List.mem_of_getElem? hThread, by simp [Grip.handle?]⟩
  refine h.set hThread (by simp [Grip.handle?]; omega) ?_ h.nodup (fun _ _ hj => hj) (by simp)
    h.idle
  intro j
  split
  · rename_i hj
    subst hj
    simpa using hOut
  · rfl

end Serves

end Mutex

namespace NameLocks

@[simp] theorem find?_modify (l : NameLocks) (lock : LockId) (f : Mutex → Mutex) (name : LockName) :
    (l.modify lock f).find? name = l.find? name := rfl

@[simp] theorem length_modify (l : NameLocks) (lock : LockId) (f : Mutex → Mutex) :
    (l.modify lock f).mutexes.length = l.mutexes.length := by
  simp [modify]

theorem mutex_modify_self {l : NameLocks} {lock : LockId} (h : lock < l.mutexes.length)
    (f : Mutex → Mutex) : (l.modify lock f).mutex lock = f (l.mutex lock) := by
  simp [modify, mutex, List.getElem?_eq_getElem h]

theorem mutex_modify_ne {lock other : LockId} (h : other ≠ lock) (l : NameLocks)
    (f : Mutex → Mutex) : (l.modify lock f).mutex other = l.mutex other := by
  simp [modify, mutex, List.getElem?_modify_ne f l.mutexes (Ne.symm h)]

theorem modify_id (l : NameLocks) (lock : LockId) : l.modify lock id = l := by
  simp [modify]

theorem lookup_filter_ne (table : List (LockName × LockId)) (name other : LockName) :
    (table.filter (·.1 != name)).lookup other =
      if other = name then none else table.lookup other := by
  induction table with
  | nil => simp
  | cons entry rest ih =>
      obtain ⟨key, lock⟩ := entry
      by_cases hKey : key = name
      · subst hKey
        by_cases hOther : other = key
        · simpa [hOther] using ih
        · simpa [List.lookup_cons, beq_eq_false_iff_ne.mpr hOther, hOther] using ih
      · by_cases hOther : other = key
        · subst hOther
          simp [hKey]
        · simpa [List.lookup_cons, beq_eq_false_iff_ne.mpr hOther, hKey] using ih

/-- A new entry hides no other name. -/
theorem find?_cons (l : NameLocks) (mutexes : List Mutex) (name : LockName) (lock : LockId) (other : LockName) :
    find? ⟨mutexes, (name, lock) :: l.table⟩ other = if other = name then some lock else l.find? other := by
  by_cases hOther : other = name
  · simp [find?, hOther]
  · simp [find?, List.lookup_cons, beq_eq_false_iff_ne.mpr hOther, hOther]

theorem mutex_append_of_lt {l : NameLocks} {lock : LockId} (h : lock < l.mutexes.length) (mutexes : List Mutex)
    (table : List (LockName × LockId)) : mutex ⟨l.mutexes ++ mutexes, table⟩ lock = l.mutex lock := by
  simp [mutex, List.getElem?_append_left h]

/-- What the table and the locks know of all grips. -/
structure Agrees (l : NameLocks) (grips : List Grip) : Prop where
  /-- A handle is on the lock that the table has for the name. -/
  handle : ∀ {i : Nat} {g : Grip} {name lock}, grips[i]? = some g → g.handle? = some (name, lock) →
    l.find? name = some lock
  made : ∀ {name lock}, l.find? name = some lock → lock < l.mutexes.length
  apart : ∀ {name name' lock}, l.find? name = some lock → l.find? name' = some lock → name = name'
  serves : ∀ {name lock}, l.find? name = some lock → (l.mutex lock).Serves name lock grips
  /-- A name stays in the table only for a thread that will see to its removal. -/
  used : ∀ {name lock}, l.find? name = some lock →
    ∃ (i : Nat) (g : Grip), grips[i]? = some g ∧
      (g.handle? = some (name, lock) ∨ g = .leaving name)

namespace Agrees

variable {l : NameLocks} {grips : List Grip} {i : Nat} {name : LockName} {lock : LockId}

/-- Locks agree with threads that have nothing to do with them if no name is in the table. -/
theorem of_table_nil (h : l.table = []) (hAway : ∀ (i : Nat) g, grips[i]? = some g → g = .away) :
    l.Agrees grips := by
  have hFind : ∀ name, l.find? name = none := fun name => by simp [find?, h]
  refine ⟨?_, ?_, ?_, ?_, ?_⟩
  · intro i g name lock hThread hHandle
    rw [hAway i g hThread] at hHandle
    simp [Grip.handle?] at hHandle
  · intro name lock hEntry
    simp [hFind] at hEntry
  · intro name name' lock hEntry
    simp [hFind] at hEntry
  · intro name lock hEntry
    simp [hFind] at hEntry
  · intro name lock hEntry
    simp [hFind] at hEntry

/-- Two threads are never inside the same lock, nor inside two locks of one name. -/
theorem inside_unique (h : l.Agrees grips) {i j : Nat} {lock lock' : LockId}
    (hi : grips[i]? = some (.inside name lock)) (hj : grips[j]? = some (.inside name lock')) :
    i = j := by
  have hEntry := h.handle hi rfl
  obtain rfl : lock = lock' := Option.some.inj (hEntry.symm.trans (h.handle hj rfl))
  have hServes := h.serves hEntry
  exact Option.some.inj ((hServes.holder i hi).symm.trans (hServes.holder j hj))

/-- What keeps a name in the table is the grip of a thread or that of another one. -/
theorem used_cases {g : Grip} (h : l.Agrees grips) (hThread : grips[i]? = some g) (hEntry : l.find? name = some lock) :
    g.Keeps name lock ∨ ∃ (j : Nat) (g₁ : Grip), i ≠ j ∧ grips[j]? = some g₁ ∧ g₁.Keeps name lock := by
  obtain ⟨j, g₁, hj, hUse⟩ := h.used hEntry
  by_cases hSame : i = j
  · subst hSame
    obtain rfl := Option.some.inj (hThread.symm.trans hj)
    exact .inl hUse
  · exact .inr ⟨j, g₁, hSame, hj, hUse⟩

/-- One thread has a new grip, and the locks are such as fit it. The names that the others have handles for have their
locks, and each name in the table is kept there by the new grip or by that of another thread. -/
theorem of_set {g : Grip} (hNumber : i < grips.length)
    (hOthers : ∀ {j : Nat} {g₁ : Grip} {name lock}, i ≠ j → grips[j]? = some g₁ → g₁.handle? = some (name, lock) →
      l.find? name = some lock)
    (hOwn : ∀ {name lock}, g.handle? = some (name, lock) → l.find? name = some lock)
    (hMade : ∀ {name lock}, l.find? name = some lock → lock < l.mutexes.length)
    (hApart : ∀ {name name' lock}, l.find? name = some lock → l.find? name' = some lock → name = name')
    (hServes : ∀ {name lock}, l.find? name = some lock → (l.mutex lock).Serves name lock (grips.set i g))
    (hUsed : ∀ {name lock}, l.find? name = some lock →
      g.Keeps name lock ∨ ∃ (j : Nat) (g₁ : Grip), i ≠ j ∧ grips[j]? = some g₁ ∧ g₁.Keeps name lock) :
    l.Agrees (grips.set i g) where
  handle := by
    intro j g₁ name lock hThread hHandle
    rcases getElem?_set_cases hThread with ⟨-, rfl⟩ | ⟨hj, hThread⟩
    · exact hOwn hHandle
    · exact hOthers hj hThread hHandle
  made := hMade
  apart := hApart
  serves := hServes
  used := by
    intro name lock hEntry
    rcases hUsed hEntry with hUse | ⟨j, g₁, hj, hThread, hUse⟩
    · exact ⟨i, g, List.getElem?_set_self hNumber, hUse⟩
    · exact ⟨j, g₁, by rwa [List.getElem?_set_ne hj], hUse⟩

/-- One lock changes along with the grip of a thread that has to do with no other lock. -/
theorem modify {g g' : Grip} {f : Mutex → Mutex} (h : l.Agrees grips)
    (hThread : grips[i]? = some g) (hEntry : l.find? name = some lock)
    (hServes : (f (l.mutex lock)).Serves name lock (grips.set i g'))
    (hOld : ∀ other, g.handle? = some other → other = (name, lock))
    (hNew : ∀ other, g'.handle? = some other → other = (name, lock))
    (hStays : ∀ other, g ≠ .leaving other)
    (hUsed : g'.handle? = some (name, lock) ∨ g' = .leaving name) :
    (l.modify lock f).Agrees (grips.set i g') := by
  refine of_set (List.getElem?_eq_some_iff.1 hThread).1 (fun _ => h.handle) ?_ ?_ h.apart ?_ ?_
  · intro name₁ lock₁ hHandle
    obtain ⟨rfl, rfl⟩ := Prod.mk.inj (hNew _ hHandle)
    exact hEntry
  · intro name₁ lock₁ hEntry₁
    rw [length_modify]
    exact h.made hEntry₁
  · intro name₁ lock₁ hEntry₁
    rw [find?_modify] at hEntry₁
    by_cases hLock : lock₁ = lock
    · subst hLock
      obtain rfl := h.apart hEntry hEntry₁
      rw [mutex_modify_self (h.made hEntry)]
      exact hServes
    · rw [mutex_modify_ne hLock]
      refine (h.serves hEntry₁).frame hThread ?_ ?_
      · exact fun he => hLock (Prod.mk.inj (hOld _ he)).2
      · exact fun he => hLock (Prod.mk.inj (hNew _ he)).2
  · intro name₁ lock₁ hEntry₁
    rw [find?_modify] at hEntry₁
    rcases h.used_cases hThread hEntry₁ with (hHandle | hLeaving) | hOther
    · obtain ⟨rfl, rfl⟩ := Prod.mk.inj (hOld _ hHandle)
      exact .inl hUsed
    · exact absurd hLeaving (hStays _)
    · exact .inr hOther

/-- A name that is not in the table gets a lock of its own. -/
theorem takeHandle_of_find?_eq_none (h : l.Agrees grips) (hThread : grips[i]? = some .away)
    (hNone : l.find? name = none) :
    (⟨l.mutexes ++ [{ handles := 1 }], (name, l.mutexes.length) :: l.table⟩ : NameLocks).Agrees
      (grips.set i (.loose name l.mutexes.length)) := by
  have hFind := l.find?_cons (l.mutexes ++ [{ handles := 1 }]) name l.mutexes.length
  refine of_set (List.getElem?_eq_some_iff.1 hThread).1 ?_ ?_ ?_ ?_ ?_ ?_
  · intro j g₁ name₁ lock₁ _ hThread₁ hHandle
    have hEntry := h.handle hThread₁ hHandle
    have hOther : name₁ ≠ name := by
      rintro rfl
      cases hNone.symm.trans hEntry
    rw [hFind, if_neg hOther, hEntry]
  · intro name₁ lock₁ hHandle
    obtain ⟨rfl, rfl⟩ := Prod.mk.inj (Option.some.inj hHandle)
    rw [hFind, if_pos rfl]
  · intro name₁ lock₁ hEntry
    rw [hFind] at hEntry
    split at hEntry
    · simp [← Option.some.inj hEntry]
    · simpa using Nat.lt_succ_of_lt (h.made hEntry)
  · intro name₁ name₂ lock₁ hEntry₁ hEntry₂
    rw [hFind] at hEntry₁ hEntry₂
    split at hEntry₁ <;> split at hEntry₂
    · simp_all
    · exact absurd (Option.some.inj hEntry₁) (Nat.ne_of_gt (h.made hEntry₂))
    · exact absurd (Option.some.inj hEntry₂) (Nat.ne_of_gt (h.made hEntry₁))
    · exact h.apart hEntry₁ hEntry₂
  · intro name₁ lock₁ hEntry
    rw [hFind] at hEntry
    split at hEntry
    · rename_i hName
      subst hName
      obtain rfl := Option.some.inj hEntry
      have hUnknown : ∀ (j : Nat) g, grips[j]? = some g → g.handle? ≠ some (name₁, l.mutexes.length) := by
        intro j g hj hHandle
        cases hNone.symm.trans (h.handle hj hHandle)
      simpa [mutex] using (Mutex.Serves.new hUnknown).take hThread
    · rename_i hName
      rw [mutex_append_of_lt (h.made hEntry)]
      refine (h.serves hEntry).frame hThread (by simp [Grip.handle?]) fun hHandle => ?_
      exact hName (Prod.mk.inj (Option.some.inj hHandle)).1.symm
  · intro name₁ lock₁ hEntry
    rw [hFind] at hEntry
    split at hEntry
    · rename_i hName
      obtain rfl := Option.some.inj hEntry
      exact .inl (.inl (by simp [Grip.handle?, hName]))
    · rcases h.used_cases hThread hEntry with hAway | hOther
      · simp [Grip.Keeps, Grip.handle?] at hAway
      · exact .inr hOther

theorem takeHandle (h : l.Agrees grips) (hThread : grips[i]? = some .away) (name : LockName) :
    (l.takeHandle name).2.Agrees (grips.set i (.loose name (l.takeHandle name).1)) := by
  unfold NameLocks.takeHandle
  split
  · rename_i lock hEntry
    refine h.modify hThread hEntry ((h.serves hEntry).take hThread) ?_ ?_ (by simp) (.inl rfl)
    · simp [Grip.handle?]
    · simp [Grip.handle?]
  · rename_i hNone
    exact h.takeHandle_of_find?_eq_none hThread hNone

/-- A thread that has no handle may go away once no name depends on it. -/
theorem leave (h : l.Agrees grips) (hThread : grips[i]? = some (.leaving name))
    (hUsed : ∀ lock, l.find? name = some lock →
      ∃ (j : Nat) (g : Grip), grips[j]? = some g ∧ g.handle? = some (name, lock)) :
    l.Agrees (grips.set i .away) := by
  refine of_set (List.getElem?_eq_some_iff.1 hThread).1 (fun _ => h.handle) (fun hHandle => nomatch hHandle) h.made
    h.apart ?_ ?_
  · intro name₁ lock₁ hEntry
    exact (h.serves hEntry).frame hThread (by simp [Grip.handle?]) (by simp [Grip.handle?])
  · intro name₁ lock₁ hEntry
    rcases h.used_cases hThread hEntry with hOwn | hOther
    · obtain rfl : name = name₁ := by simpa [Grip.Keeps, Grip.handle?] using hOwn
      obtain ⟨j, g, hj, hHandle⟩ := hUsed lock₁ hEntry
      refine .inr ⟨j, g, ?_, hj, .inl hHandle⟩
      rintro rfl
      obtain rfl := Option.some.inj (hThread.symm.trans hj)
      simp [Grip.handle?] at hHandle
    · exact .inr hOther

/-- A name that nobody has a handle for may leave the table with the thread that sees to it. -/
theorem leave_filter (h : l.Agrees grips) (hThread : grips[i]? = some (.leaving name))
    (hUnknown : ∀ (j : Nat) g lock, grips[j]? = some g → g.handle? ≠ some (name, lock)) :
    NameLocks.Agrees { l with table := l.table.filter (·.1 != name) } (grips.set i .away) := by
  have hFind : ∀ other, find? { l with table := l.table.filter (·.1 != name) } other =
      if other = name then none else l.find? other := lookup_filter_ne l.table name
  have hBefore {other : LockName} {lock : LockId}
      (hEntry : find? { l with table := l.table.filter (·.1 != name) } other = some lock) :
      other ≠ name ∧ l.find? other = some lock := by
    rw [hFind] at hEntry
    exact Option.ite_none_left_eq_some.1 hEntry
  refine of_set (List.getElem?_eq_some_iff.1 hThread).1 ?_ (fun hHandle => nomatch hHandle)
    (fun hEntry => h.made (hBefore hEntry).2)
    (fun hEntry hEntry' => h.apart (hBefore hEntry).2 (hBefore hEntry').2) ?_ ?_
  · intro j g₁ name₁ lock₁ _ hThread₁ hHandle
    have hName : name₁ ≠ name := by
      rintro rfl
      exact hUnknown j g₁ lock₁ hThread₁ hHandle
    rw [hFind, if_neg hName]
    exact h.handle hThread₁ hHandle
  · intro name₁ lock₁ hEntry
    exact (h.serves (hBefore hEntry).2).frame hThread (by simp [Grip.handle?]) (by simp [Grip.handle?])
  · intro name₁ lock₁ hEntry
    obtain ⟨hName, hEntry⟩ := hBefore hEntry
    rcases h.used_cases hThread hEntry with hOwn | hOther
    · simp [Grip.Keeps, Grip.handle?, Ne.symm hName] at hOwn
    · exact .inr hOther

theorem sweep (h : l.Agrees grips) (hThread : grips[i]? = some (.leaving name)) :
    (l.sweep name).Agrees (grips.set i .away) := by
  unfold NameLocks.sweep
  split
  · rename_i lock hEntry
    have hCount := (h.serves hEntry).handles
    split
    · rename_i hZero
      rw [hZero, eq_comm, List.countP_eq_zero] at hCount
      refine h.leave_filter hThread fun j g lock' hj hHandle => ?_
      obtain rfl := Option.some.inj (hEntry.symm.trans (h.handle hj hHandle))
      exact hCount g (List.mem_of_getElem? hj) (by simpa using hHandle)
    · rename_i hSome
      refine h.leave hThread ?_
      intro lock' hEntry'
      obtain rfl := Option.some.inj (hEntry.symm.trans hEntry')
      obtain ⟨g, hg, hHandle⟩ := List.countP_pos_iff.1 (hCount ▸ Nat.pos_of_ne_zero hSome)
      obtain ⟨j, hj⟩ := List.mem_iff_getElem?.1 hg
      exact ⟨j, g, hj, by simpa using hHandle⟩
  · rename_i hNone
    exact h.leave hThread (by simp [hNone])

theorem request (h : l.Agrees grips) (hThread : grips[i]? = some (.loose name lock)) :
    (l.modify lock (·.request i)).Agrees (grips.set i (.queued name lock)) := by
  have hEntry := h.handle hThread rfl
  refine h.modify hThread hEntry ((h.serves hEntry).request hThread) ?_ ?_ (by simp) (.inl rfl)
  · simp [Grip.handle?]
  · simp [Grip.handle?]

theorem grant (h : l.Agrees grips) (hThread : grips[i]? = some (.queued name lock))
    (hHeld : l.isHeldBy lock i) : l.Agrees (grips.set i (.inside name lock)) := by
  have hEntry := h.handle hThread rfl
  have hHolder : (l.mutex lock).holder = some i := by simpa [isHeldBy] using hHeld
  rw [← modify_id l lock]
  refine h.modify hThread hEntry ((h.serves hEntry).grant hThread hHolder) ?_ ?_ (by simp) (.inl rfl)
  · simp [Grip.handle?]
  · simp [Grip.handle?]

theorem withdraw (h : l.Agrees grips) (hThread : grips[i]? = some (.queued name lock)) :
    (l.modify lock (·.withdraw i)).Agrees (grips.set i (.loose name lock)) := by
  have hEntry := h.handle hThread rfl
  refine h.modify hThread hEntry ((h.serves hEntry).withdraw hThread) ?_ ?_ (by simp) (.inl rfl)
  · simp [Grip.handle?]
  · simp [Grip.handle?]

theorem release (h : l.Agrees grips) (hThread : grips[i]? = some (.inside name lock)) :
    (l.modify lock Mutex.release).Agrees (grips.set i (.loose name lock)) := by
  have hEntry := h.handle hThread rfl
  refine h.modify hThread hEntry ((h.serves hEntry).release hThread) ?_ ?_ (by simp) (.inl rfl)
  · simp [Grip.handle?]
  · simp [Grip.handle?]

theorem dropHandle (h : l.Agrees grips) (hThread : grips[i]? = some (.loose name lock)) :
    (l.dropHandle lock).Agrees (grips.set i (.leaving name)) := by
  have hEntry := h.handle hThread rfl
  refine h.modify hThread hEntry ((h.serves hEntry).drop hThread) ?_ ?_ (by simp) (.inr rfl)
  · simp [Grip.handle?]
  · simp [Grip.handle?]

end Agrees

end NameLocks

end VolumeController

import VolumeController.Procedure
/-!
Name locks: one exclusive lock for each name in use. A lock enters the table with the first handle taken
on it and leaves when nobody has a handle on it; waiters are served in the order they came.
-/

namespace VolumeController

/-- One lock: how many handles callers have on it, who holds it, and who waits for it. -/
structure Mutex where
  handles : Nat := 0
  holder : Option Nat := none
  waiters : List Nat := []
  deriving DecidableEq, Repr

namespace Mutex

/-- Asks for the lock on behalf of a task: it is granted if nobody has or awaits it. -/
def request (m : Mutex) (task : Nat) : Mutex :=
  match m.holder, m.waiters with
  | none, [] => { m with holder := some task }
  | _, _ => { m with waiters := m.waiters ++ [task] }

/-- Hands the lock on to the first waiter. -/
def release (m : Mutex) : Mutex :=
  match m.waiters with
  | [] => { m with holder := none }
  | next :: rest => { m with holder := some next, waiters := rest }

/-- Gives up a request, or the grant that was not yet noticed. -/
def withdraw (m : Mutex) (task : Nat) : Mutex :=
  if m.holder = some task then m.release else { m with waiters := m.waiters.filter (· != task) }

end Mutex

/-- The locks ever made, by identity, and the table of the names in use. -/
structure NameLocks where
  mutexes : List Mutex := []
  table : List (LockName × LockId) := []
  deriving DecidableEq, Repr

namespace NameLocks

/-- The lock that the table has for a name. -/
def find? (l : NameLocks) (name : LockName) : Option LockId :=
  l.table.lookup name

/-- The lock of an identity. -/
def mutex (l : NameLocks) (lock : LockId) : Mutex :=
  l.mutexes[lock]?.getD {}

/-- Changes one lock. -/
def modify (l : NameLocks) (lock : LockId) (f : Mutex → Mutex) : NameLocks :=
  { l with mutexes := l.mutexes.modify lock f }

/-- Takes a handle on the lock of a name, making the lock if the table has none. -/
def takeHandle (l : NameLocks) (name : LockName) : LockId × NameLocks :=
  match l.find? name with
  | some lock => (lock, l.modify lock fun m => { m with handles := m.handles + 1 })
  | none =>
    (l.mutexes.length, ⟨l.mutexes ++ [{ handles := 1 }], (name, l.mutexes.length) :: l.table⟩)

/-- Gives a handle back. -/
def dropHandle (l : NameLocks) (lock : LockId) : NameLocks :=
  l.modify lock fun m => { m with handles := m.handles - 1 }

/-- Removes the lock of a name from the table if nobody has a handle on it. -/
def sweep (l : NameLocks) (name : LockName) : NameLocks :=
  match l.find? name with
  | some lock =>
    if (l.mutex lock).handles = 0 then { l with table := l.table.filter (·.1 != name) } else l
  | none => l

/-- Whether a task holds a lock. -/
def isHeldBy (l : NameLocks) (lock : LockId) (task : Nat) : Bool :=
  (l.mutex lock).holder = some task

end NameLocks

end VolumeController

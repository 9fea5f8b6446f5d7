import VolumeController.Cause
import VolumeController.Disk
/-!
Sizes: whole gibibytes counted in megabytes on the platform's side, signed 64-bit bytes on the
orchestrator's side.
-/

namespace VolumeController.Capacity

/-- The bytes of a megabyte. -/
def mebibyte : Nat := 1024 * 1024

/-- The bytes of a gibibyte. -/
def gibibyte : Nat := 1024 * mebibyte

/-- The size, in gibibytes, of a volume for which none was asked. -/
def defaultGib : Nat := 10

/-- Byte counts that can be reported lie below this bound. -/
def reportable : Nat := 0x8000000000000000

/-- A byte count rounded up to whole gibibytes, in megabytes. -/
def roundUp (bytes : Nat) : Nat :=
  (bytes + (gibibyte - 1)) / gibibyte * 1024

/-- The size to create, in megabytes, for the required bytes: zero asks for the default. The rounded size
must still be reportable. -/
def requestedMb (required : Int64) : Except Cause UInt64 :=
  let bytes := required.toInt
  if bytes < 0 then .error (.sizeNegative bytes)
  else
    let sizeMb := if bytes = 0 then roundUp (defaultGib * gibibyte) else roundUp bytes.toNat
    if sizeMb * mebibyte < reportable then .ok (.ofNat sizeMb) else .error (.sizeTooLarge bytes)

/-- The bytes of a size in megabytes, if the count can be reported. -/
def bytes? (sizeMb : UInt64) : Option Int64 :=
  if mebibyte * sizeMb.toNat < reportable then some (.ofNat (mebibyte * sizeMb.toNat)) else none

theorem bytes?_of_lt {sizeMb : UInt64} (h : sizeMb.toNat * mebibyte < reportable) :
    bytes? sizeMb = some (.ofNat (sizeMb.toNat * mebibyte)) := by
  rw [Nat.mul_comm] at h ⊢
  exact if_pos h

/-- What is reported is the exact count. -/
theorem toInt_of_bytes? {sizeMb : UInt64} {bytes : Int64} (h : bytes? sizeMb = some bytes) :
    sizeMb.toNat * mebibyte < reportable ∧ bytes.toInt = (sizeMb.toNat * mebibyte : Nat) := by
  unfold bytes? at h
  rw [Nat.mul_comm] at h
  split at h
  · rename_i hReportable
    cases h
    exact ⟨hReportable, Int64.toInt_ofNat_of_lt hReportable⟩
  · cases h

end VolumeController.Capacity

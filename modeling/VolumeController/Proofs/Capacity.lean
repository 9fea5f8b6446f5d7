import Mathlib.Algebra.Group.Int.Defs
import VolumeController.Capacity
/-! The size that a request is granted: its required bytes rounded up to whole gibibytes, or the default
if it asks for none. A size in megabytes that was accepted for a request is reported as just these
bytes. -/

namespace VolumeController.Capacity

/-- The bytes that a request is granted. -/
def granted (required : Int64) : Nat :=
  if required.toInt = 0 then defaultGib * gibibyte
  else (required.toInt.toNat + (gibibyte - 1)) / gibibyte * gibibyte

theorem roundUp_mul_mebibyte (bytes : Nat) :
    roundUp bytes * mebibyte = (bytes + (gibibyte - 1)) / gibibyte * gibibyte := by
  rw [roundUp, Nat.mul_assoc]
  rfl

/-- An accepted size in bytes is the granted one, and can be reported. -/
theorem requestedMb_eq_ok {required : Int64} {sizeMb : UInt64} (h : requestedMb required = .ok sizeMb) :
    sizeMb.toNat * mebibyte = granted required ∧ sizeMb.toNat * mebibyte < reportable := by
  unfold requestedMb at h
  simp only at h
  split at h
  · cases h
  · generalize hSize : (if required.toInt = 0 then roundUp (defaultGib * gibibyte)
      else roundUp required.toInt.toNat) = size at h
    have hGranted : size * mebibyte = granted required := by
      rw [← hSize, granted]
      split
      · rfl
      · exact roundUp_mul_mebibyte _
    split at h
    · rename_i hReportable
      have hExact : (UInt64.ofNat size).toNat = size := by
        have hBound : size * 1048576 < 9223372036854775808 := hReportable
        rw [UInt64.toNat_ofNat']
        omega
      cases h
      rw [hExact]
      exact ⟨hGranted, hReportable⟩
    · cases h

/-- An accepted size is a positive number of whole gibibytes. -/
theorem size_of_requestedMb {required : Int64} {sizeMb : UInt64} (h : requestedMb required = .ok sizeMb) :
    0 < sizeMb.toNat ∧ 1024 ∣ sizeMb.toNat := by
  obtain ⟨hGranted, -⟩ := requestedMb_eq_ok h
  have hSign : ¬ required.toInt < 0 := by
    intro hNegative
    rw [requestedMb, if_pos hNegative] at h
    cases h
  obtain ⟨gib, hPositive, hGib⟩ : ∃ gib, 0 < gib ∧ granted required = gib * gibibyte := by
    rw [granted]
    split
    · exact ⟨defaultGib, by decide, rfl⟩
    · refine ⟨_, Nat.div_pos ?_ (by decide), rfl⟩
      omega
  have hMebibytes : gib * gibibyte = gib * 1024 * mebibyte := by
    rw [Nat.mul_assoc]
    rfl
  rw [hGib, hMebibytes] at hGranted
  have hSize : sizeMb.toNat = gib * 1024 := Nat.eq_of_mul_eq_mul_right (by decide) hGranted
  rw [hSize]
  exact ⟨Nat.mul_pos hPositive (by decide), Nat.dvd_mul_left _ _⟩

/-- An accepted size is reported as what was granted. -/
theorem bytes?_of_requestedMb {required : Int64} {sizeMb : UInt64}
    (h : requestedMb required = .ok sizeMb) :
    ∃ bytes, bytes? sizeMb = some bytes ∧ bytes.toInt = granted required := by
  obtain ⟨hGranted, hReportable⟩ := requestedMb_eq_ok h
  refine ⟨_, bytes?_of_lt hReportable, ?_⟩
  rw [Int64.toInt_ofNat_of_lt hReportable, hGranted]

/-- A size is granted from zero up to one gibibyte below the first that cannot be reported. -/
theorem exists_requestedMb_iff (required : Int64) :
    (∃ sizeMb, requestedMb required = .ok sizeMb) ↔ 0 ≤ required.toInt ∧ required.toInt ≤ 2 ^ 63 - 2 ^ 30 := by
  unfold requestedMb
  simp only
  split
  · refine ⟨?_, fun hRange => by omega⟩
    rintro ⟨_, ⟨⟩⟩
  · rename_i hSign
    have hBytes : (if required.toInt = 0 then roundUp (defaultGib * gibibyte) else roundUp required.toInt.toNat) *
        mebibyte < reportable ↔ required.toInt ≤ 2 ^ 63 - 2 ^ 30 := by
      split
      · rename_i hZero
        rw [hZero]
        decide
      · have hGibibyte : gibibyte = 2 ^ 30 := rfl
        have hReportable : reportable = 2 ^ 63 := rfl
        rw [roundUp_mul_mebibyte, hGibibyte, hReportable]
        omega
    rw [and_iff_right (Int.not_lt.1 hSign), ← hBytes]
    generalize (if required.toInt = 0 then roundUp (defaultGib * gibibyte) else roundUp required.toInt.toNat) = size
    split
    · rename_i hBelow
      exact ⟨fun _ => hBelow, fun _ => ⟨_, rfl⟩⟩
    · rename_i hBeyond
      refine ⟨?_, fun hBelow => absurd hBelow hBeyond⟩
      rintro ⟨_, ⟨⟩⟩

end VolumeController.Capacity

import Mathlib.Order.Bounds.Basic
import VolumeController.Proofs.CreateRequest
import VolumeController.Proofs.Words
/-! Sizes at the limits of 64-bit words. A machine computes a size step by step, and each step may leave the range of a
word. Main result: none does, so that what the machine computes is exact: a request is granted the least positive number
of whole gibibytes that holds what it requires, just if the bytes of that size can be reported. -/

namespace VolumeController

namespace Capacity

/-! The same computations as a machine carries them out. The outer option is none if a step leaves the words. -/

/-- Rounds a byte count up to whole gibibytes, in megabytes. -/
def roundUpWord? (bytes : UInt64) : Option UInt64 := do
  let gibibytes ← Word.divCeil? bytes (.ofNat gibibyte)
  Word.mul? gibibytes 1024

/-- The bytes of a size in megabytes. That the product may leave the words is provided for. -/
def bytesWord? (sizeMb : UInt64) : Option Int64 :=
  (Word.mul? sizeMb (.ofNat mebibyte)).bind Word.signed?

/-- The bytes to round up: those that are required, or the default if there are none. -/
def grantedWord? (bytes : UInt64) : Option UInt64 :=
  if bytes = 0 then Word.mul? (.ofNat defaultGib) (.ofNat gibibyte) else some bytes

/-- The size to create for the required bytes. -/
def requestedWord? (required : Int64) : Option (Except Cause UInt64) :=
  match Word.unsigned? required with
  | none => some (.error (.sizeNegative required.toInt))
  | some bytes => do
    let sizeMb ← roundUpWord? (← grantedWord? bytes)
    return if (bytesWord? sizeMb).isSome then .ok sizeMb else .error (.sizeTooLarge required.toInt)

/-- Rounding up leaves room: the size of any count of bytes is a word. -/
theorem roundUp_lt (bytes : UInt64) : roundUp bytes.toNat < 2 ^ 64 := by
  have hBytes := bytes.toNat_lt
  have hGibibyte : gibibyte = 1073741824 := rfl
  rw [roundUp, hGibibyte]
  omega

theorem divCeil?_gibibyte (bytes : UInt64) :
    Word.divCeil? bytes (.ofNat gibibyte) = some (.ofNat ((bytes.toNat + (gibibyte - 1)) / gibibyte)) := by
  have hBytes := bytes.toNat_lt
  have hGibibyte : (UInt64.ofNat gibibyte).toNat = 1073741824 := rfl
  have hQuotient : (bytes / .ofNat gibibyte).toNat = bytes.toNat / 1073741824 := by
    rw [UInt64.toNat_div, hGibibyte]
  have hRest : (bytes % .ofNat gibibyte).toNat = bytes.toNat % 1073741824 := by
    rw [UInt64.toNat_mod, hGibibyte]
  have hSame : gibibyte = 1073741824 := rfl
  unfold Word.divCeil?
  split
  · rename_i hWhole
    rw [hWhole] at hRest
    have hZero : bytes.toNat % 1073741824 = 0 := hRest.symm
    refine congrArg some (UInt64.toNat_inj.1 ?_)
    rw [hQuotient, hSame, Word.toNat_ofNat_of_lt (by omega)]
    omega
  · rename_i hPart
    have hSome : bytes.toNat % 1073741824 ≠ 0 := fun hZero =>
      hPart (UInt64.toNat_inj.1 (hRest.trans hZero))
    have hOne : (1 : UInt64).toNat = 1 := rfl
    rw [Word.add?, hQuotient, hOne, Word.ofNat?_of_lt (by omega), hSame]
    refine congrArg some (congrArg UInt64.ofNat ?_)
    omega

/-- No step of the rounding leaves the words. -/
theorem roundUpWord?_eq (bytes : UInt64) : roundUpWord? bytes = some (.ofNat (roundUp bytes.toNat)) := by
  have hBytes := bytes.toNat_lt
  have hGibibyte : gibibyte = 1073741824 := rfl
  have hThousand : (1024 : UInt64).toNat = 1024 := rfl
  have hQuotient : (UInt64.ofNat ((bytes.toNat + (gibibyte - 1)) / gibibyte)).toNat =
      (bytes.toNat + (gibibyte - 1)) / gibibyte := Word.toNat_ofNat_of_lt (by rw [hGibibyte]; omega)
  have hRoom := roundUp_lt bytes
  rw [roundUpWord?, divCeil?_gibibyte, Option.bind_eq_bind, Option.bind_some, Word.mul?, hQuotient, hThousand]
  rw [roundUp] at hRoom ⊢
  exact Word.ofNat?_of_lt hRoom

/-- The checked product and the test of its sign say just whether the count can be reported. -/
theorem bytesWord?_eq (sizeMb : UInt64) : bytesWord? sizeMb = bytes? sizeMb := by
  have hMebibyte : (UInt64.ofNat mebibyte).toNat = mebibyte := rfl
  have hReportable : reportable = 2 ^ 63 := rfl
  rw [bytesWord?, Word.mul?, hMebibyte, Nat.mul_comm, bytes?, hReportable]
  by_cases hWord : mebibyte * sizeMb.toNat < 2 ^ 64
  · rw [Word.ofNat?_of_lt hWord, Option.bind_some, Word.signed?, Word.toNat_ofNat_of_lt hWord]
  · rw [Word.ofNat?, if_neg hWord, if_neg (by omega)]
    rfl

theorem isSome_bytes? (sizeMb : UInt64) : (bytes? sizeMb).isSome ↔ sizeMb.toNat * mebibyte < reportable := by
  unfold bytes?
  rw [Nat.mul_comm]
  split
  · exact ⟨fun _ => by assumption, fun _ => rfl⟩
  · exact ⟨fun h => (Bool.false_ne_true h).elim, fun h => absurd h (by assumption)⟩

theorem exists_grantedWord? (bytes : UInt64) : ∃ granted, grantedWord? bytes = some granted ∧
    granted.toNat = if bytes = 0 then defaultGib * gibibyte else bytes.toNat := by
  unfold grantedWord?
  split
  · exact ⟨.ofNat (defaultGib * gibibyte), rfl, rfl⟩
  · exact ⟨bytes, rfl, rfl⟩

/-- No step on the way to the size of a request leaves the words. -/
theorem requestedWord?_eq (required : Int64) : requestedWord? required = some (requestedMb required) := by
  unfold requestedWord? requestedMb
  by_cases hNegative : required.toInt < 0
  · rw [Word.unsigned?, if_pos hNegative]
    simp only [if_pos hNegative]
  · obtain ⟨bytes, hWord, hBytes⟩ := Word.unsigned?_of_nonneg hNegative
    have hZero : bytes = 0 ↔ required.toInt = 0 := by
      rw [← UInt64.toNat_inj, hBytes, UInt64.toNat_zero]
      omega
    obtain ⟨granted, hGranted, hSize⟩ := exists_grantedWord? bytes
    have hExact := Word.toNat_ofNat_of_lt (roundUp_lt granted)
    simp only [hWord, hGranted, Option.bind_eq_bind, Option.bind_some, roundUpWord?_eq, bytesWord?_eq, isSome_bytes?,
      hExact, if_neg hNegative, Option.pure_def]
    rw [hSize, hBytes, apply_ite roundUp]
    simp only [hZero]

/-! The size that is granted. -/

/-- Whether a size in megabytes is the one to grant for some bytes: the least positive number of whole gibibytes that
holds them, or ten gibibytes for none. -/
def Grants (asked : Int) (sizeMb : Nat) : Prop :=
  if asked = 0 then sizeMb = 10240
  else IsLeast { size : Nat | 0 < size ∧ 1024 ∣ size ∧ asked ≤ size * 2 ^ 20 } sizeMb ∧
    asked ≤ sizeMb * 2 ^ 20 ∧ sizeMb * 2 ^ 20 < asked + 2 ^ 30

theorem grants_of_requestedMb {required : Int64} {sizeMb : UInt64} (h : requestedMb required = .ok sizeMb) :
    Grants required.toInt sizeMb.toNat := by
  obtain ⟨hGranted, -⟩ := requestedMb_eq_ok h
  obtain ⟨hPositive, hWhole⟩ := size_of_requestedMb h
  have hSign : ¬ required.toInt < 0 := by
    intro hNegative
    rw [requestedMb, if_pos hNegative] at h
    cases h
  have hGibibyte : gibibyte = 1073741824 := rfl
  have hMebibyte : mebibyte = 1048576 := rfl
  have hDefault : defaultGib = 10 := rfl
  rw [granted, hGibibyte, hMebibyte, hDefault] at hGranted
  unfold Grants
  split
  · rename_i hNone
    rw [if_pos hNone] at hGranted
    omega
  · rename_i hSome
    rw [if_neg hSome] at hGranted
    refine ⟨⟨⟨hPositive, hWhole, by omega⟩, ?_⟩, by omega, by omega⟩
    rintro size ⟨-, ⟨gibibytes, rfl⟩, hHolds⟩
    omega

theorem isSome_bytes?_iff (sizeMb : UInt64) : (bytes? sizeMb).isSome ↔ sizeMb.toNat < 2 ^ 43 := by
  have hMebibyte : mebibyte = 1048576 := rfl
  have hReportable : reportable = 9223372036854775808 := rfl
  rw [isSome_bytes?, hMebibyte, hReportable]
  omega

/-- A disk of a granted size is reported, byte for byte. -/
theorem exists_volume_of_requestedMb {required : Int64} {disk : Disk}
    (h : requestedMb required = .ok disk.capacityMb) (endpoint datacenter : String) :
    ∃ volume, Volume.ofDisk disk endpoint datacenter = .ok volume ∧
      volume.capacityBytes.toInt = disk.capacityMb.toNat * 2 ^ 20 := by
  have hBytes := bytes?_of_lt (requestedMb_eq_ok h).2
  exact ⟨_, Volume.ofDisk_of_bytes? hBytes endpoint datacenter, (toInt_of_bytes? hBytes).2⟩

end Capacity

/-- Sizes at the limits. A create request that requires some bytes, or none, has a size just if the bytes are not
negative and at least one gibibyte below the bound of signed words. The size is the least that holds them, a disk of it
is always reported, and what is reported of any disk is exact. No step of a machine on the way to a size, or in the
rounding of any count of bytes, leaves the words. -/
theorem sizes_are_exact (request : CreateVolumeRequest) :
    let asked : Int := match request.capacityRange with
      | none => 0
      | some range => range.requiredBytes.toInt
    ((∃ sizeMb, Capacity.requestedMb request.required = .ok sizeMb) ↔ 0 ≤ asked ∧ asked ≤ 2 ^ 63 - 2 ^ 30) ∧
    (∀ sizeMb, Capacity.requestedMb request.required = .ok sizeMb → Capacity.Grants asked sizeMb.toNat ∧
      ∀ (disk : Disk) (endpoint datacenter : String), disk.capacityMb = sizeMb →
        ∃ volume, Volume.ofDisk disk endpoint datacenter = .ok volume ∧
          volume.capacityBytes.toInt = sizeMb.toNat * 2 ^ 20) ∧
    (∀ sizeMb, ((Capacity.bytes? sizeMb).isSome ↔ sizeMb.toNat < 2 ^ 43) ∧
      ∀ bytes, Capacity.bytes? sizeMb = some bytes → bytes.toInt = sizeMb.toNat * 2 ^ 20) ∧
    Capacity.requestedWord? request.required = some (Capacity.requestedMb request.required) ∧
    (∀ bytes, ∃ sizeMb, Capacity.roundUpWord? bytes = some sizeMb ∧ sizeMb.toNat = Capacity.roundUp bytes.toNat) ∧
    ∀ sizeMb, Capacity.bytesWord? sizeMb = Capacity.bytes? sizeMb := by
  intro asked
  have hAsked : asked = request.required.toInt := by
    unfold asked CreateVolumeRequest.required
    cases request.capacityRange <;> rfl
  rw [hAsked]
  refine ⟨Capacity.exists_requestedMb_iff _, fun sizeMb hSize => ⟨Capacity.grants_of_requestedMb hSize, ?_⟩,
    fun sizeMb => ⟨Capacity.isSome_bytes?_iff sizeMb, fun bytes hBytes => (Capacity.toInt_of_bytes? hBytes).2⟩,
    Capacity.requestedWord?_eq _, fun bytes => ?_, Capacity.bytesWord?_eq⟩
  · rintro disk endpoint datacenter rfl
    exact Capacity.exists_volume_of_requestedMb hSize endpoint datacenter
  · exact ⟨_, Capacity.roundUpWord?_eq bytes, Word.toNat_ofNat_of_lt (Capacity.roundUp_lt bytes)⟩

/-- The largest request is for one gibibyte less than the bound of signed words, and is granted to the byte. One byte
more is refused. -/
theorem sizes_are_exact_largest :
    let request (bytes : Int64) : CreateVolumeRequest := { CreateVolumeRequest.single 1 with
      capacityRange := some ⟨bytes, 0⟩ }
    Capacity.requestedMb (request 9223372035781033984).required = .ok 8796093021184 ∧
      Capacity.Grants (2 ^ 63 - 2 ^ 30) 8796093021184 ∧
      ¬ ∃ sizeMb, Capacity.requestedMb (request 9223372035781033985).required = .ok sizeMb := by
  intro request
  obtain ⟨-, hGranted, -⟩ := sizes_are_exact (request 9223372035781033984)
  obtain ⟨hRefused, -⟩ := sizes_are_exact (request 9223372035781033985)
  have hSize : Capacity.requestedMb (request 9223372035781033984).required = .ok 8796093021184 := by decide +kernel
  refine ⟨hSize, (hGranted _ hSize).1, fun hSome => ?_⟩
  exact absurd (hRefused.1 hSome).2 (by decide)

end VolumeController

import Mathlib.Algebra.Group.Nat.Defs
/-! Arithmetic on 64-bit words. Each operation gives its result only if no bit of it is lost. -/

namespace VolumeController

namespace Word

/-- The word of a number, if it has one. -/
def ofNat? (n : Nat) : Option UInt64 :=
  if n < 2 ^ 64 then some (.ofNat n) else none

def add? (a b : UInt64) : Option UInt64 :=
  ofNat? (a.toNat + b.toNat)

def sub? (a b : UInt64) : Option UInt64 :=
  if b ≤ a then some (a - b) else none

def mul? (a b : UInt64) : Option UInt64 :=
  ofNat? (a.toNat * b.toNat)

/-- A quotient rounded up: one more than the quotient if something is left over. -/
def divCeil? (a b : UInt64) : Option UInt64 :=
  if a % b = 0 then some (a / b) else add? (a / b) 1

/-- A word as a signed one, if it has no sign bit. -/
def signed? (a : UInt64) : Option Int64 :=
  if a.toNat < 2 ^ 63 then some (.ofNat a.toNat) else none

/-- A signed word as an unsigned one, if it is not negative. -/
def unsigned? (a : Int64) : Option UInt64 :=
  if a.toInt < 0 then none else some (.ofNat a.toInt.toNat)

theorem ofNat?_of_lt {n : Nat} (h : n < 2 ^ 64) : ofNat? n = some (.ofNat n) :=
  if_pos h

theorem toNat_ofNat_of_lt {n : Nat} (h : n < 2 ^ 64) : (UInt64.ofNat n).toNat = n := by
  rw [UInt64.toNat_ofNat', Nat.mod_eq_of_lt h]

/-- A sum that is a word is exact. -/
theorem exists_add?_of_lt {a b : UInt64} (h : a.toNat + b.toNat < 2 ^ 64) :
    ∃ c, add? a b = some c ∧ c.toNat = a.toNat + b.toNat :=
  ⟨_, ofNat?_of_lt h, toNat_ofNat_of_lt h⟩

/-- A difference is exact if there is enough to take away from. -/
theorem exists_sub?_of_le {a b : UInt64} (h : b.toNat ≤ a.toNat) :
    ∃ c, sub? a b = some c ∧ c.toNat = a.toNat - b.toNat :=
  ⟨_, if_pos (UInt64.le_iff_toNat_le.2 h), UInt64.toNat_sub_of_le _ _ (UInt64.le_iff_toNat_le.2 h)⟩

/-- What is not negative has a word of its own. -/
theorem unsigned?_of_nonneg {a : Int64} (h : ¬ a.toInt < 0) :
    ∃ b, unsigned? a = some b ∧ b.toNat = a.toInt.toNat := by
  refine ⟨_, if_neg h, toNat_ofNat_of_lt ?_⟩
  have hBound := a.toInt_lt
  omega

end Word

end VolumeController

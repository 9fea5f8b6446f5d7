/-!
Decimal numerals. `readNat` reads a natural number below a bound and says which of two faults it met
first; `decimal` writes one. The main statement, `readNat_decimal`, is that reading undoes writing for
every number below the bound.
-/

namespace VolumeController.Text

/-- Why a text is not a numeral of the wanted range. -/
inductive NumeralFault where
  | malformed
  | tooLarge
  deriving DecidableEq, Repr

/-- The wording of a fault. -/
def NumeralFault.message : NumeralFault → String
  | .malformed => "invalid digit found in string"
  | .tooLarge => "number too large to fit in target type"

/-- The value of an ASCII decimal digit. -/
def digit? (c : Char) : Option Nat :=
  if '0' ≤ c ∧ c ≤ '9' then some (c.toNat - 48) else none

/-- The decimal digit of a value below ten. -/
def digitChar (d : Nat) : Char :=
  Char.ofNat (48 + d % 10)

/-- Reads digits from the left onto `value`. The first character that is no digit, or that takes the
value to the bound, decides the fault. -/
def readDigits (bound : Nat) (value : Nat) : List Char → Except NumeralFault Nat
  | [] => .ok value
  | c :: rest =>
    match digit? c with
    | none => .error .malformed
    | some d =>
      if value * 10 + d < bound then readDigits bound (value * 10 + d) rest else .error .tooLarge

/-- Reads a natural number below `bound`: an optional plus sign and at least one ASCII digit. -/
def readNat (bound : Nat) : List Char → Except NumeralFault Nat
  | [] => .error .malformed
  | '+' :: rest => if rest.isEmpty then .error .malformed else readDigits bound 0 rest
  | text => readDigits bound 0 text

/-- The decimal digits of a number, the highest first, without leading zeros. -/
def decimal (n : Nat) : List Char :=
  if n < 10 then [digitChar n] else decimal (n / 10) ++ [digitChar n]
termination_by n

/-- The decimal text of a natural number. -/
def natText (n : Nat) : String :=
  String.ofList (decimal n)

/-- The decimal text of an integer: a minus sign before the digits of a negative one. -/
def intText (n : Int) : String :=
  if n < 0 then "-" ++ natText n.natAbs else natText n.natAbs

theorem digit?_digitChar (d : Nat) : digit? (digitChar d) = some (d % 10) := by
  have h : d % 10 < 10 := Nat.mod_lt _ (by decide)
  unfold digitChar
  revert h
  generalize d % 10 = k
  intro h
  match k, h with
  | 0, _ | 1, _ | 2, _ | 3, _ | 4, _ | 5, _ | 6, _ | 7, _ | 8, _ | 9, _ => rfl

theorem digitChar_ne_plus (d : Nat) : digitChar d ≠ '+' := by
  intro h
  have := digit?_digitChar d
  rw [h] at this
  exact absurd this (by simp [digit?])

theorem readDigits_append (bound value : Nat) (xs ys : List Char) :
    readDigits bound value (xs ++ ys) =
      (readDigits bound value xs).bind fun v => readDigits bound v ys := by
  induction xs generalizing value with
  | nil => rfl
  | cons c xs ih =>
    simp only [List.cons_append, readDigits]
    cases digit? c with
    | none => rfl
    | some d =>
      simp only
      split
      · exact ih _
      · rfl

theorem readDigits_decimal (bound n : Nat) (h : n < bound) :
    readDigits bound 0 (decimal n) = .ok n := by
  fun_induction decimal n with
  | case1 n hn => simp [readDigits, digit?_digitChar, Nat.mod_eq_of_lt hn, h]
  | case2 n hn ih =>
    have hb : n / 10 < bound := Nat.lt_of_le_of_lt (Nat.div_le_self _ _) h
    have hv : n / 10 * 10 + n % 10 = n := by omega
    simp [readDigits_append, ih hb, Except.bind, readDigits, digit?_digitChar, hv, h]

theorem decimal_ne_nil (n : Nat) : decimal n ≠ [] := by
  fun_induction decimal n <;> simp

theorem head_decimal_ne_plus (n : Nat) : (decimal n).head? ≠ some '+' := by
  fun_induction decimal n with
  | case1 n hn => simpa using digitChar_ne_plus n
  | case2 n hn ih =>
    obtain ⟨c, rest, hc⟩ := List.exists_cons_of_ne_nil (decimal_ne_nil (n / 10))
    simpa [hc] using ih

/-- Reading undoes writing for every number below the bound. -/
theorem readNat_decimal (bound n : Nat) (h : n < bound) : readNat bound (decimal n) = .ok n := by
  have hn := decimal_ne_nil n
  have hp := head_decimal_ne_plus n
  have hr := readDigits_decimal bound n h
  revert hn hp hr
  generalize decimal n = text
  intro hn hp hr
  match text with
  | [] => exact absurd rfl hn
  | c :: rest =>
    have hc : c ≠ '+' := by simpa using hp
    simp [readNat, hc, hr]

end VolumeController.Text

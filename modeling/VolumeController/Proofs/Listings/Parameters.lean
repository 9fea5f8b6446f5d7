import Mathlib.Algebra.Group.Nat.Defs
import VolumeController.Json.Document
import VolumeController.Listing
/-! What a listing is asked for: a limit, and a token to start from. Main result: a token is read as an offset exactly
if it is empty and the offset is zero, or if it is a decimal numeral of the offset, behind a plus sign or without one,
and the offset lies below `2 ^ 64`. -/

namespace VolumeController

namespace Text

/-- A numeral of a number: at least one decimal digit, behind a plus sign or without one. Leading zeros do not
matter. -/
def Denotes (text : List Char) (n : Nat) : Prop :=
  ∃ digits, (text = digits ∨ text = '+' :: digits) ∧ digits ≠ [] ∧ (∀ c ∈ digits, c.isDigit) ∧
    Number.digitsValue digits = n

variable {bound value n : Nat}

theorem digit?_of_isDigit {c : Char} (h : c.isDigit) : digit? c = some (c.toNat - 48) := by
  rw [Char.isDigit, Bool.and_eq_true, decide_eq_true_iff, decide_eq_true_iff] at h
  exact if_pos h

theorem digit?_of_not_isDigit {c : Char} (h : ¬ c.isDigit) : digit? c = none := by
  rw [Char.isDigit, Bool.and_eq_true, decide_eq_true_iff, decide_eq_true_iff] at h
  exact if_neg h

theorem not_isDigit_plus : ¬ '+'.isDigit := by
  decide

/-- Digits never take a number back. -/
theorem le_foldl_digits (value : Nat) (digits : List Char) :
    value ≤ digits.foldl (fun n c => n * 10 + (c.toNat - 48)) value := by
  induction digits generalizing value with
  | nil => exact Nat.le_refl _
  | cons c digits ih =>
      have hNext := ih (value * 10 + (c.toNat - 48))
      rw [List.foldl_cons]
      omega

/-- Below the bound, a row of digits is read as its value. -/
theorem readDigits_eq_ok_iff (h : value < bound) (digits : List Char) :
    readDigits bound value digits = .ok n ↔
      (∀ c ∈ digits, c.isDigit) ∧ digits.foldl (fun n c => n * 10 + (c.toNat - 48)) value = n ∧ n < bound := by
  induction digits generalizing value with
  | nil =>
      rw [readDigits, Except.ok.injEq]
      exact ⟨fun hSame => ⟨List.forall_mem_nil _, hSame, hSame ▸ h⟩, fun hRead => hRead.2.1⟩
  | cons c digits ih =>
      rw [readDigits, List.forall_mem_cons, List.foldl_cons]
      by_cases hDigit : c.isDigit
      · rw [digit?_of_isDigit hDigit]
        simp only [hDigit, true_and]
        split
        · rename_i hBelow
          exact ih hBelow
        · rename_i hBeyond
          refine ⟨fun hRead => (by cases hRead), ?_⟩
          rintro ⟨-, rfl, hBelow⟩
          exact absurd (Nat.lt_of_le_of_lt (le_foldl_digits _ _) hBelow) hBeyond
      · rw [digit?_of_not_isDigit hDigit]
        exact ⟨fun hRead => (by cases hRead), fun hRead => absurd hRead.1.1 hDigit⟩

/-- What is read below a bound are the numerals of the numbers below it. -/
theorem readNat_eq_ok_iff (hBound : 0 < bound) (text : List Char) :
    readNat bound text = .ok n ↔ Denotes text n ∧ n < bound := by
  have hDigits {digits : List Char} (hSome : digits ≠ []) : readDigits bound 0 digits = .ok n ↔
      (digits ≠ [] ∧ (∀ c ∈ digits, c.isDigit) ∧ Number.digitsValue digits = n) ∧ n < bound := by
    rw [readDigits_eq_ok_iff hBound, Number.digitsValue, and_assoc, and_assoc, and_iff_right hSome]
  unfold readNat
  split
  · refine ⟨nofun, ?_⟩
    rintro ⟨⟨digits, rfl | hText, hSome, -⟩, -⟩
    · exact absurd rfl hSome
    · cases hText
  · rename_i rest
    split
    · rename_i hEmpty
      refine ⟨nofun, ?_⟩
      rintro ⟨⟨digits, rfl | hText, hSome, hAll, -⟩, -⟩
      · exact absurd (hAll '+' List.mem_cons_self) not_isDigit_plus
      · obtain rfl := (List.cons.inj hText).2
        exact absurd (List.isEmpty_iff.1 hEmpty) hSome
    · rename_i hSome
      rw [hDigits fun hNone => hSome (List.isEmpty_iff.2 hNone)]
      refine and_congr_left fun _ => ⟨fun h => ⟨rest, .inr rfl, h⟩, ?_⟩
      rintro ⟨digits, rfl | hText, h⟩
      · exact absurd (h.2.1 '+' List.mem_cons_self) not_isDigit_plus
      · obtain rfl := (List.cons.inj hText).2
        exact h
  · rename_i hSome hUnsigned
    rw [hDigits hSome]
    refine and_congr_left fun _ => ⟨fun h => ⟨text, .inl rfl, h⟩, ?_⟩
    rintro ⟨digits, rfl | hText, h⟩
    · exact h
    · exact absurd hText (hUnsigned digits)

end Text

/-- Limits are read if they are not negative. -/
theorem Listing.limit_eq_ok_iff (maxEntries : Int32) (n : Nat) :
    limit maxEntries = .ok n ↔ maxEntries.toInt = n := by
  unfold limit
  split
  · refine ⟨nofun, fun hSame => ?_⟩
    omega
  · rw [Except.ok.injEq]
    omega

/-- A token stands for an offset: it is empty for the beginning, or it is a numeral of the offset. -/
def StartsAt (token : String) (offset : Nat) : Prop :=
  token = "" ∧ offset = 0 ∨ Text.Denotes token.toList offset ∧ offset < 2 ^ 64

/-- Tokens are read as the offsets that they stand for. -/
theorem offsetOfToken_eq_ok_iff (token : String) (offset : Nat) :
    offsetOfToken token = .ok offset ↔ StartsAt token offset := by
  unfold offsetOfToken StartsAt
  split
  · rename_i hEmpty
    obtain rfl := String.isEmpty_iff.1 hEmpty
    rw [Except.ok.injEq, eq_comm]
    refine ⟨fun hZero => .inl ⟨rfl, hZero⟩, ?_⟩
    rintro (⟨-, hZero⟩ | ⟨⟨digits, rfl | hText, hSome, -⟩, -⟩)
    · exact hZero
    · exact absurd rfl hSome
    · cases hText
  · rename_i hText
    have hSome : token ≠ "" := fun hNone => hText (String.isEmpty_iff.2 hNone)
    have hBound : 2 ^ 64 = offsetBound := rfl
    rw [or_iff_right fun hNone => hSome hNone.1, hBound, ← Text.readNat_eq_ok_iff (by decide)]
    split
    · rename_i hRead
      rw [hRead, Except.ok.injEq, Except.ok.injEq]
    · rename_i hRead
      rw [hRead]
      exact ⟨nofun, nofun⟩

/-- Leading zeros and one plus sign are taken, but no sign alone, no minus sign and nothing as large as the bound. -/
example :
    ["+007", "18446744073709551615", "+", "-1", "++1", "1.5", "18446744073709551616"].map
      (fun token => (offsetOfToken token).toOption) =
    [some 7, some 18446744073709551615, none, none, none, none, none] := by
  decide +kernel

end VolumeController

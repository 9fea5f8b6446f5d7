import Mathlib.Data.List.TakeWhile
import VolumeController.ApiVersion
import VolumeController.Proofs.Listings.Parameters
/-! The versions that are supported. Main result: the check accepts exactly the versions that, without the white space
around them, begin with two numerals below `2 ^ 32` up to the first and the second dot, or with one and no dot, and of
which the first is more than six, or six with at least five for the second. -/

namespace VolumeController

namespace Text

variable {text core : List Char}

/-- Whether a text is another one with white space around it that has none at its own ends. -/
structure Trimmed (text core : List Char) : Prop where
  around : ∃ before after, text = before ++ core ++ after ∧ ∀ c ∈ before ++ after, isWhiteSpace c
  first : ∀ c ∈ core.head?, ¬ isWhiteSpace c
  last : ∀ c ∈ core.getLast?, ¬ isWhiteSpace c

theorem dropWhile_of_head? {p : Char → Bool} (h : ∀ c ∈ text.head?, ¬ p c) : text.dropWhile p = text := by
  cases text with
  | nil => rfl
  | cons c text => exact List.dropWhile_cons_of_neg (h c rfl)

theorem not_of_head?_dropWhile (text : List Char) (p : Char → Bool) {c : Char} (h : c ∈ (text.dropWhile p).head?) :
    ¬ p c := by
  have hNot := List.head?_dropWhile_not p text
  rw [Option.mem_def.1 h] at hNot
  exact Bool.eq_false_iff.1 hNot

theorem trimmed_trim (text : List Char) : Trimmed text (trim text) := by
  let middle := text.dropWhile isWhiteSpace
  let before := text.takeWhile isWhiteSpace
  let after := (middle.reverse.takeWhile isWhiteSpace).reverse
  have hMiddle : middle = trim text ++ after := by
    rw [trim, ← List.reverse_append, List.takeWhile_append_dropWhile, List.reverse_reverse]
  have hText : text = before ++ trim text ++ after := by
    rw [List.append_assoc, ← hMiddle, List.takeWhile_append_dropWhile]
  refine ⟨⟨before, after, hText, List.forall_mem_append.2 ⟨?_, ?_⟩⟩, fun c hc => ?_, fun c hc => ?_⟩
  · exact fun c => List.mem_takeWhile_imp
  · exact fun c hc => List.mem_takeWhile_imp (List.mem_reverse.1 hc)
  · -- The first character that is left by the cut at the end was the first one before it.
    refine not_of_head?_dropWhile text isWhiteSpace ?_
    change c ∈ middle.head?
    rw [hMiddle, List.head?_append, Option.mem_def.1 hc]
    rfl
  · rw [trim, List.getLast?_reverse] at hc
    exact not_of_head?_dropWhile _ _ hc

/-- Nothing else is left of a text by trimming. -/
theorem Trimmed.trim_eq (h : Trimmed text core) : trim text = core := by
  obtain ⟨before, after, rfl, hAround⟩ := h.around
  obtain ⟨hBefore, hAfter⟩ := List.forall_mem_append.1 hAround
  rw [trim, List.append_assoc, List.dropWhile_append_of_pos hBefore]
  cases core with
  | nil =>
      have hNone : after.dropWhile isWhiteSpace = [] := List.dropWhile_eq_nil_iff.2 hAfter
      rw [List.nil_append, hNone]
      rfl
  | cons c core =>
      have hFirst : (c :: core ++ after).dropWhile isWhiteSpace = c :: core ++ after :=
        List.dropWhile_cons_of_neg (h.first c rfl)
      have hLast : (c :: core).reverse.dropWhile isWhiteSpace = (c :: core).reverse :=
        dropWhile_of_head? (by rw [List.head?_reverse]; exact h.last)
      have hEnd : ∀ c ∈ after.reverse, isWhiteSpace c := fun c hc => hAfter c (List.mem_reverse.1 hc)
      rw [hFirst, List.reverse_append, List.dropWhile_append_of_pos hEnd, hLast, List.reverse_reverse]

/-- The part before the first dot, and the parts of what follows it. -/
theorem splitOn_dot (text : List Char) :
    text.splitOn '.' = text.takeWhile (· != '.') :: match text.dropWhile (· != '.') with
      | [] => []
      | _ :: rest => rest.splitOn '.' := by
  have hParts := List.takeWhile_append_dropWhile (p := (· != '.')) (l := text)
  have hNone : '.' ∉ text.takeWhile (· != '.') := fun hDot =>
    absurd (List.mem_takeWhile_imp hDot) (by decide)
  cases hRest : text.dropWhile (· != '.') with
  | nil =>
      rw [hRest, List.append_nil] at hParts
      rw [hParts] at hNone ⊢
      exact List.splitOn_eq_singleton hNone
  | cons c rest =>
      have hDot : c = '.' := by
        have hFirst : c ∈ (text.dropWhile (· != '.')).head? := by
          rw [hRest]
          rfl
        simpa using not_of_head?_dropWhile _ _ hFirst
      subst hDot
      rw [hRest] at hParts
      calc text.splitOn '.'
        _ = (text.takeWhile (· != '.') ++ '.' :: rest).splitOn '.' := by rw [hParts]
        _ = _ := List.splitOn_append_cons_self_of_not_mem hNone rest

end Text

namespace ApiVersion

/-- Whether a text is a numeral of a component. -/
def IsComponent (text : List Char) (n : Nat) : Prop :=
  Text.Denotes text n ∧ n < 2 ^ 32

/-- Whether the first two of some parts are numerals of two components. Without a second part that component is
zero. -/
def Begins (major minor : Nat) : List (List Char) → Prop
  | [] => False
  | [first] => IsComponent first major ∧ minor = 0
  | first :: second :: _ => IsComponent first major ∧ IsComponent second minor

/-- Whether a version reads as two components. -/
def Reads (version : String) (major minor : Nat) : Prop :=
  ∃ core, Text.Trimmed version.toList core ∧ Begins major minor (core.splitOn '.')

/-- Whether two components are not before six and five. -/
def Suffices (major minor : Nat) : Prop :=
  6 < major ∨ major = 6 ∧ 5 ≤ minor

def Supported (version : String) : Prop :=
  ∃ major minor, Reads version major minor ∧ Suffices major minor

/-- What is wrong with a version. -/
inductive Faults (version : String) : Cause → Prop where
  | unreadable (h : ∀ major minor, ¬ Reads version major minor) : Faults version (.versionUnreadable version)
  | tooOld {major minor : Nat} (hReads : Reads version major minor) (hOld : ¬ Suffices major minor) :
      Faults version (.versionTooOld version)

variable {version : String} {major minor : Nat}

theorem toOption_readNat (text : List Char) (n : Nat) :
    (Text.readNat componentBound text).toOption = some n ↔ IsComponent text n := by
  have hBound : componentBound = 2 ^ 32 := rfl
  rw [IsComponent, ← hBound, ← Text.readNat_eq_ok_iff (by decide)]
  cases Text.readNat componentBound text with
  | error fault => exact ⟨nofun, nofun⟩
  | ok value => rw [Except.toOption, Option.some.injEq, Except.ok.injEq]

theorem components?_eq_some_iff (text : List Char) :
    components? text = some (major, minor) ↔ Begins major minor (text.splitOn '.') := by
  unfold components?
  rw [Text.splitOn_dot text]
  cases hRest : text.dropWhile (· != '.') with
  | nil =>
      have hWhole : text.takeWhile (· != '.') = text :=
        List.takeWhile_eq_self_iff.2 (List.dropWhile_eq_nil_iff.1 hRest)
      simp only [hWhole, Begins, ← toOption_readNat, Option.map_eq_some_iff, Prod.mk.injEq]
      constructor
      · rintro ⟨_, hMajor, rfl, rfl⟩
        exact ⟨hMajor, rfl⟩
      · rintro ⟨hMajor, rfl⟩
        exact ⟨_, hMajor, rfl, rfl⟩
  | cons dot rest =>
      simp only
      rw [Text.splitOn_dot rest, Begins, ← toOption_readNat, ← toOption_readNat]
      split
      · rename_i hMajor hMinor
        simp [hMajor, hMinor]
      · rename_i hNone
        exact ⟨nofun, fun hBoth => (hNone _ _ hBoth.1 hBoth.2).elim⟩

/-- Versions that are not before six and five are those that suffice. -/
theorem precedes_minimum : precedes (major, minor) minimum = false ↔ Suffices major minor := by
  rw [← Bool.not_eq_true, precedes, minimum, Suffices]
  simp
  omega

/-- The components of a trimmed version are what it reads as. -/
theorem reads_iff : Reads version major minor ↔ components? (Text.trim version.toList) = some (major, minor) := by
  rw [components?_eq_some_iff]
  refine ⟨?_, fun h => ⟨_, Text.trimmed_trim _, h⟩⟩
  rintro ⟨core, hCore, hBegins⟩
  rwa [hCore.trim_eq]

/-- A version reads in one way only. -/
theorem Reads.unique {major' minor' : Nat} (h : Reads version major minor) (h' : Reads version major' minor') :
    major = major' ∧ minor = minor' :=
  Prod.mk.inj (Option.some.inj ((reads_iff.1 h).symm.trans (reads_iff.1 h')))

theorem Faults.not_supported {cause : Cause} (h : Faults version cause) : ¬ Supported version := by
  rintro ⟨major, minor, hReads, hEnough⟩
  cases h with
  | unreadable hNone => exact hNone major minor hReads
  | tooOld hOther hOld =>
      obtain ⟨rfl, rfl⟩ := hReads.unique hOther
      exact hOld hEnough

/-- A version is accepted if it is supported, and else refused for what is wrong with it. -/
theorem check_cases (version : String) : (check version = .ok () ∧ Supported version) ∨
    ∃ cause, check version = .error cause ∧ Faults version cause := by
  unfold check
  cases hRead : components? (Text.trim version.toList) with
  | none =>
      refine .inr ⟨_, rfl, .unreadable fun major minor hReads => ?_⟩
      cases hRead.symm.trans (reads_iff.1 hReads)
  | some components =>
      obtain ⟨major, minor⟩ := components
      have hReads := reads_iff.2 hRead
      simp only
      split
      · rename_i hOld
        refine .inr ⟨_, rfl, .tooOld hReads fun hEnough => ?_⟩
        rw [precedes_minimum.2 hEnough] at hOld
        cases hOld
      · rename_i hEnough
        exact .inl ⟨rfl, major, minor, hReads, precedes_minimum.1 (Bool.not_eq_true _ ▸ hEnough)⟩

/-- Signs, leading zeros and white space do not matter, nor does what follows the second dot. Numbers are compared, not
texts. -/
example :
    [" 6.5\n", "+6.05.beta", "7", "10.0", "6.4.9", "6", "6.", "-7.0", "7.4294967296", "six", ""].map
      (fun version => (check version).toOption.isSome) =
    [true, true, true, true, false, false, false, false, false, false, false] := by
  decide +kernel

end ApiVersion

end VolumeController

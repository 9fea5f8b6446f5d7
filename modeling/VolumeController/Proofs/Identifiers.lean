import Mathlib.Data.List.Basic
import VolumeController.Inventory
/-! Ids and the paths made of them. Different numbers have different ids, and disks of different ids have
different backing files, whatever datastores they lie on. -/

namespace VolumeController

namespace Text

/-- Digits are neither of the signs that ids and paths are put together with. -/
theorem not_mem_hexadecimal {c : Char} (hc : ∀ d < 16, hexDigit d ≠ c) (n : Nat) : c ∉ hexadecimal n := by
  induction n using hexadecimal.induct with
  | case1 n hSmall =>
      rw [hexadecimal, if_pos hSmall, List.mem_singleton]
      exact fun h => hc n hSmall h.symm
  | case2 n hLarge ih =>
      rw [hexadecimal, if_neg hLarge, List.mem_append, List.mem_singleton]
      rintro (hRest | hLast)
      · exact ih hRest
      · exact hc (n % 16) (Nat.mod_lt n (by decide)) hLast.symm

/-- Reading the digits of a number gives it back. -/
theorem hexNumber?_hexadecimal (n : Nat) : hexNumber? (hexadecimal n) = some n := by
  induction n using hexadecimal.induct with
  | case1 n hSmall =>
      rw [hexadecimal, if_pos hSmall]
      simp [hexNumber?, hexValue?_hexDigit n hSmall]
  | case2 n hLarge ih =>
      have hLast := hexValue?_hexDigit (n % 16) (Nat.mod_lt n (by decide))
      rw [hexadecimal, if_neg hLarge, hexNumber?, List.foldlM_append]
      rw [hexNumber?] at ih
      simp only [ih, List.foldlM_cons, List.foldlM_nil, hLast, Option.map_some]
      refine congrArg some ?_
      omega

/-- Zeros before the digits do not count. -/
theorem hexNumber?_replicate_append (zeros : Nat) (digits : List Char) :
    hexNumber? (List.replicate zeros '0' ++ digits) = hexNumber? digits := by
  induction zeros with
  | zero => rfl
  | succ zeros ih => exact ih

end Text

namespace Inventory

open Text

/-- The last part of an id. -/
def idDigits (n : Nat) : List Char :=
  List.replicate (12 - (hexadecimal n).length) '0' ++ hexadecimal n

theorem idDigits_injective {m n : Nat} (h : idDigits m = idDigits n) : m = n := by
  have hNumbers := congrArg hexNumber? h
  rw [idDigits, idDigits, hexNumber?_replicate_append, hexNumber?_replicate_append,
    hexNumber?_hexadecimal, hexNumber?_hexadecimal] at hNumbers
  exact Option.some.inj hNumbers

theorem not_mem_idDigits {c : Char} (hZero : c ≠ '0') (hc : ∀ d < 16, hexDigit d ≠ c) (n : Nat) :
    c ∉ idDigits n := by
  rw [idDigits, List.mem_append, List.mem_replicate]
  rintro (⟨-, h⟩ | h)
  · exact hZero h
  · exact not_mem_hexadecimal hc n h

theorem idText_eq (n : Nat) :
    idText n = "00000000-0000-4000-8000-" ++ String.ofList (idDigits n) := rfl

theorem toList_idText (n : Nat) : (idText n).toList = "00000000-0000-4000-8000-".toList ++ idDigits n := by
  rw [idText_eq, String.toList_append]
  exact congrArg _ String.toList_ofList

theorem idText_injective {m n : Nat} (h : idText m = idText n) : m = n := by
  have hLists := congrArg String.toList h
  rw [toList_idText, toList_idText] at hLists
  exact idDigits_injective (List.append_cancel_left hLists)

/-- The id within a path. -/
theorem filter_idText (n : Nat) :
    (idText n).toList.filter (· != '-') = "00000000000040008000".toList ++ idDigits n := by
  rw [toList_idText, List.filter_append]
  have hDigits : (idDigits n).filter (· != '-') = idDigits n := by
    refine List.filter_eq_self.2 fun c hc => ?_
    have hDash : c ≠ '-' := by
      rintro rfl
      exact not_mem_idDigits (by decide) (by decide) n hc
    simpa using hDash
  rw [hDigits]
  rfl

/-- The path of a backing file is the datastore in brackets, the folder of first class disks, and the id without its
dashes. -/
theorem backingPath_eq (datastore id : String) : backingPath datastore id =
    "[" ++ datastore ++ "] fcd/" ++ String.ofList (id.toList.filter (· ≠ '-')) ++ ".vmdk" := by
  have hDashes : id.toList.filter (· ≠ '-') = id.toList.filter (· != '-') :=
    List.filter_congr fun c _ => by rw [Bool.eq_iff_iff, decide_eq_true_eq, bne_iff_ne]
  rw [hDashes]
  rfl

example : backingPath "ds" (idText 1) = "[ds] fcd/00000000000040008000000000000001.vmdk" := by decide +kernel

/-- The path of a backing file, cut at its last slash. -/
theorem toList_backingPath (datastore : String) (n : Nat) :
    (backingPath datastore (idText n)).toList =
      ('[' :: datastore.toList ++ "] fcd".toList) ++
        '/' :: (("00000000000040008000".toList ++ idDigits n) ++ ".vmdk".toList) := by
  have hSlash : (toString "] fcd/").toList = "] fcd".toList ++ ['/'] := by decide
  have hOpen : (toString "[").toList = ['['] := by decide
  have hName : (toString datastore).toList = datastore.toList := rfl
  simp only [backingPath, String.toList_append, String.toList_ofList, filter_idText, hSlash, hOpen, hName,
    List.append_assoc, List.cons_append, List.nil_append]

/-- What comes after the last slash is the same in equal paths. -/
theorem eq_of_append_cons_eq {α : Type} {c : α} {before before' after after' : List α} (hAfter : c ∉ after)
    (hAfter' : c ∉ after') (h : before ++ c :: after = before' ++ c :: after') : after = after' := by
  rcases List.append_eq_append_iff.1 h with ⟨between, -, hRest⟩ | ⟨between, -, hRest⟩
  · cases between with
    | nil => exact (List.cons.inj hRest).2
    | cons first between =>
        rw [(List.cons.inj hRest).2] at hAfter
        exact absurd (by simp) hAfter
  · cases between with
    | nil => exact (List.cons.inj hRest).2.symm
    | cons first between =>
        rw [(List.cons.inj hRest).2] at hAfter'
        exact absurd (by simp) hAfter'

/-- Different disks have different backing files. -/
theorem backingPath_injective {datastore datastore' : String} {m n : Nat}
    (h : backingPath datastore (idText m) = backingPath datastore' (idText n)) : m = n := by
  have hSlash : ∀ k, '/' ∉ ("00000000000040008000".toList ++ idDigits k) ++ ".vmdk".toList := by
    intro k
    rw [List.mem_append, List.mem_append]
    rintro ((hStart | hDigits) | hEnd)
    · exact absurd hStart (by decide)
    · exact not_mem_idDigits (by decide) (by decide) k hDigits
    · exact absurd hEnd (by decide)
  have hLists := congrArg String.toList h
  rw [toList_backingPath, toList_backingPath] at hLists
  have hFiles := eq_of_append_cons_eq (hSlash m) (hSlash n) hLists
  exact idDigits_injective (List.append_cancel_left (List.append_cancel_right hFiles))

end Inventory

end VolumeController

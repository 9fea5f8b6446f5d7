import VolumeController.Disk.Codec
import VolumeController.Proofs.Json.Text
/-! Lawful codecs: reading gives back what was written. One rule for each way of building a codec, and one for each
kind of field of a record. Main result: what a lawful codec writes as text is read back from the text. -/

namespace VolumeController

variable {α β : Type}

/-! Integers. -/

namespace Number

theorem toDouble_le (n : Nat) : toDouble n ≤ 2 * n := by
  by_cases hZero : n = 0
  · subst hZero
    decide
  have hLog : n.log2 - 52 ≤ n.log2 := Nat.sub_le _ _
  have hUnit : Nat.pow 2 (n.log2 - 52) ≤ n :=
    Nat.le_trans (Nat.pow_le_pow_right (by decide) hLog) (Nat.log2_self_le hZero)
  have hKept : n / Nat.pow 2 (n.log2 - 52) * Nat.pow 2 (n.log2 - 52) ≤ n := Nat.div_mul_le_self _ _
  unfold toDouble
  simp only
  split
  · rw [Nat.add_mul]
    omega
  · omega

/-- Digits that fit their word are all taken. -/
theorem significand_of_le {digits : List Char} {value : Nat}
    (h : digits.foldl (fun n c => n * 10 + (c.toNat - 48)) value ≤ maxSignificand) :
    significand value digits = (digits.foldl (fun n c => n * 10 + (c.toNat - 48)) value, 0) := by
  have hGrows (digits : List Char) (value : Nat) : value ≤ digits.foldl (fun n c => n * 10 + (c.toNat - 48)) value := by
    induction digits generalizing value with
    | nil => exact Nat.le_refl _
    | cons c digits ih => exact Nat.le_trans (show value ≤ value * 10 + (c.toNat - 48) by omega) (ih _)
  induction digits generalizing value with
  | nil => rfl
  | cons c digits ih =>
      have hNext : value * 10 + (c.toNat - 48) ≤ maxSignificand := Nat.le_trans (hGrows digits _) h
      rw [significand]
      simp only [if_pos hNext]
      exact ih h

theorem not_overflows {negative : Bool} {n : Nat} (h : n ≤ maxSignificand) :
    Number.overflows ⟨negative, Text.decimal n, none, none⟩ = false := by
  have hDigits : (Text.decimal n).foldl (fun n c => n * 10 + (c.toNat - 48)) 0 = n := digitsValue_decimal n
  have hParts : Number.parts ⟨negative, Text.decimal n, none, none⟩ = (n, 0) := by
    simp [parts, significand_of_le (hDigits.symm ▸ h), hDigits, significand]
  have hSmall : ¬ overflowLimit ≤ toDouble n * toDouble (Nat.pow 10 (0 : Int).toNat) := by
    have hDouble := toDouble_le n
    have hLimit : 2 * maxSignificand < overflowLimit := by decide +kernel
    rw [show toDouble (Nat.pow 10 (0 : Int).toNat) = 1 by decide]
    omega
  rw [overflows, hParts]
  simp only [decide_eq_false hSmall, show ¬ 308 < (0 : Int) by decide, if_false, ite_self]

theorem int?_ofJson (n : Int) : Number.int? ⟨n < 0, Text.decimal n.natAbs, none, none⟩ = some n := by
  simp only [int?, digitsValue_decimal, decide_eq_true_eq]
  split
  · rw [if_neg (by omega)]
    congr
    omega
  · congr
    omega

end Number

namespace Codec.Lawful

theorem text : Codec.text.Lawful := fun _ => rfl

theorem bool : Codec.bool.Lawful := fun _ => rfl

theorem integer {low high : Int} {toInt : α → Int} {ofInt : Int → α}
    (hRange : ∀ a, low ≤ toInt a ∧ toInt a < high) (hBack : ∀ a, ofInt (toInt a) = a)
    (hLow : -(Number.maxSignificand : Int) ≤ low) (hHigh : high ≤ Number.maxSignificand + 1) :
    (Codec.integer low high toInt ofInt).Lawful := by
  intro a
  obtain ⟨hAbove, hBelow⟩ := hRange a
  have hFits : (toInt a).natAbs ≤ Number.maxSignificand := by omega
  simp only [Codec.integer, Document.ofJson, Number.not_overflows hFits, Number.int?_ofJson, hAbove, hBelow, hBack,
    and_self, if_true, Bool.false_eq_true, if_false]

theorem int64 : Codec.int64.Lawful :=
  integer (fun n => ⟨n.le_toInt, n.toInt_lt⟩) Int64.ofInt_toInt (by decide) (by decide)

theorem int32 : Codec.int32.Lawful :=
  integer (fun n => ⟨n.le_toInt, n.toInt_lt⟩) Int32.ofInt_toInt (by decide) (by decide)

theorem uint64 : Codec.uint64.Lawful :=
  integer (fun n => ⟨Int.natCast_nonneg _, Int.ofNat_lt.2 n.toNat_lt⟩) (fun n => by simp) (by decide) (by decide)

theorem option {c : Codec α} (hc : c.Lawful) (hSome : ∀ a, c.encode a ≠ .null) : c.option.Lawful := by
  intro value
  cases value with
  | none => rfl
  | some a =>
      have hBack := hc a
      have hWritten := hSome a
      simp only [Codec.option]
      generalize c.encode a = j at hBack hWritten ⊢
      cases j with
      | null => exact absurd rfl hWritten
      | _ => exact congrArg (Except.map some) hBack

theorem list {c : Codec α} (hc : c.Lawful) : c.list.Lawful := by
  intro as
  simp only [Codec.list, Document.ofJson]
  induction as with
  | nil => rfl
  | cons a as ih =>
      rw [List.map_cons, Document.ofItems, decodeItems, hc a, ih]
      rfl

theorem dict {c : Codec α} (hc : c.Lawful) : c.dict.Lawful := by
  have hInserted (bindings : List (String × α)) (m : Dict α) :
      c.decodeEntries true m (Document.ofFields (bindings.map fun e => (e.1, c.encode e.2)))
        = .ok (bindings.foldl (fun m e => m.insert e.1 e.2) m) := by
    induction bindings generalizing m with
    | nil => rfl
    | cons e bindings ih =>
        rw [List.map_cons, Document.ofFields, decodeEntries, hc e.2]
        exact ih _
  intro m
  simp only [Codec.dict, Document.ofJson]
  rw [hInserted]
  exact congrArg Except.ok m.ofList_toList

theorem oneOf {name : α → String} {all : List α} (h : ∀ a, oneOf.find name all (name a) = .ok a) :
    (Codec.oneOf name all).Lawful :=
  h

end Codec.Lawful

/-! Records. -/

namespace Field

/-- What the field writes is read back, and what it leaves out is what an absent field stands for. -/
structure Lawful (field : Field α) : Prop where
  codec : field.codec.Lawful
  hidden : ∀ a, field.hidden a → field.absent = some a

namespace Lawful

variable {name : String} {c : Codec α}

theorem required (hc : c.Lawful) : (Field.required name c).Lawful :=
  ⟨hc, nofun⟩

theorem defaulted {value : α} (hc : c.Lawful) : (Field.defaulted name c value).Lawful :=
  ⟨hc, nofun⟩

theorem optional (hc : c.Lawful) (hSome : ∀ a, c.encode a ≠ .null) : (Field.optional name c).Lawful :=
  defaulted (.option hc hSome)

theorem omittable (hc : c.Lawful) (hSome : ∀ a, c.encode a ≠ .null) : (Field.omittable name c).Lawful where
  codec := .option hc hSome
  hidden _ hNone := congrArg some (Option.isNone_iff_eq_none.1 hNone).symm

end Lawful

end Field

namespace Fields

variable {αs : List Type}

/-- Every field is lawful. -/
def Lawful : {αs : List Type} → Fields αs → Prop
  | _, .nil => True
  | _, .cons field rest => field.Lawful ∧ rest.Lawful

def names : {αs : List Type} → Fields αs → List String
  | _, .nil => []
  | _, .cons field rest => field.name :: rest.names

theorem name_mem_of_encode : {αs : List Type} → {fields : Fields αs} → {values : Values αs} →
    {entry : String × Json} → entry ∈ fields.encode values → entry.1 ∈ fields.names
  | _, .cons field rest, (a, as), entry, hEntry => by
      rw [encode] at hEntry
      split at hEntry
      · exact List.mem_cons_of_mem _ (name_mem_of_encode hEntry)
      · obtain rfl | hEntry := List.mem_cons.1 hEntry
        · exact List.mem_cons_self
        · exact List.mem_cons_of_mem _ (name_mem_of_encode hEntry)

/-- Entries of other names go past a field, which keeps the value of its slot. -/
theorem decodeEntries_cons {α : Type} {field : Field α} {rest : Fields αs} {slot : Option α} {a : α}
    {entries : List (String × Json)} (hOthers : ∀ entry ∈ entries, field.name ≠ entry.1)
    (hValue : slot.or field.absent = some a) (slots : Slots αs) :
    (cons field rest).decodeEntries true (slot, slots) (Document.ofFields entries)
      = (rest.decodeEntries true slots (Document.ofFields entries)).map fun as => (a, as) := by
  induction entries generalizing slots with
  | nil => simp only [Document.ofFields, decodeEntries, finish, hValue, if_true]
  | cons entry entries ih =>
      obtain ⟨hOther, hOthers⟩ := List.forall_mem_cons.1 hOthers
      simp only [Document.ofFields, decodeEntries, fill, if_neg hOther]
      cases rest.fill entry.1 (Document.ofJson entry.2) slots with
      | error e => rfl
      | ok slots => exact ih hOthers slots

theorem decodeEntries_encode : {αs : List Type} → {fields : Fields αs} → fields.Lawful → fields.names.Nodup →
    ∀ values, fields.decodeEntries true fields.blank (Document.ofFields (fields.encode values)) = .ok values
  | _, .nil, _, _, () => rfl
  | _, .cons field rest, hFields, hNames, (a, as) => by
      obtain ⟨hField, hRest⟩ : field.Lawful ∧ rest.Lawful := hFields
      obtain ⟨hName, hNames⟩ := List.nodup_cons.1 hNames
      have hOthers : ∀ entry ∈ rest.encode as, field.name ≠ entry.1 := fun entry hEntry hSame =>
        hName (hSame ▸ name_mem_of_encode hEntry)
      rw [encode]
      split
      · rename_i hHidden
        have hAbsent : none.or field.absent = some a := hField.hidden a hHidden
        rw [blank, decodeEntries_cons hOthers hAbsent, decodeEntries_encode hRest hNames as]
        rfl
      · rw [Document.ofFields, blank, decodeEntries, fill, if_pos rfl, hField.codec a]
        exact (decodeEntries_cons hOthers rfl rest.blank).trans
          (congrArg (Except.map fun as => (a, as)) (decodeEntries_encode hRest hNames as))

end Fields

namespace Codec

theorem Lawful.record {αs : List Type} {fields : Fields αs} {make : Fields.Values αs → β}
    {parts : β → Fields.Values αs} (hFields : fields.Lawful) (hNames : fields.names.Nodup)
    (hMake : ∀ b, make (parts b) = b) : (Codec.record fields make parts).Lawful := by
  intro b
  simp only [Codec.record, Document.ofJson]
  rw [Fields.decodeEntries_encode hFields hNames]
  exact congrArg Except.ok (hMake b)

/-- What a codec writes as text is read back from the text, of which nothing is left. -/
def Restores (c : Codec α) : Prop :=
  ∀ a, c.readWhole (c.write a).toList = .ok a

variable {c : Codec α}

theorem read_write (hc : c.Lawful) (a : α) : c.read (c.write a).toList = .ok a := by
  rw [Codec.read, write, Json.render, String.toList_ofList, Document.read_write]
  exact hc a

theorem Lawful.restores (hc : c.Lawful) : c.Restores := by
  intro a
  rw [readWhole, write, Json.render, String.toList_ofList, Document.read_write]
  simp only [hc a]
  rfl

end Codec

end VolumeController

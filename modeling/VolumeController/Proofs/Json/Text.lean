import VolumeController.Json.Codec
/-! The text of a JSON value and its reading. Main result: reading the compact text of a value gives the value back
and leaves what stands behind it, as long as that does not go on with a number. -/

namespace VolumeController

/-! Numerals. -/

namespace Text

theorem isDigit_digitChar (d : Nat) : (digitChar d).isDigit = true := by
  have h : d % 10 < 10 := Nat.mod_lt _ (by decide)
  unfold digitChar
  generalize d % 10 = k at h
  revert k
  decide

theorem toNat_digitChar (d : Nat) : (digitChar d).toNat - 48 = d % 10 := by
  have h : d % 10 < 10 := Nat.mod_lt _ (by decide)
  unfold digitChar
  generalize d % 10 = k at h
  revert k
  decide

theorem isDigit_of_mem_decimal (n : Nat) : ∀ c ∈ decimal n, c.isDigit = true := by
  fun_induction decimal n with
  | case1 n hn => simp [isDigit_digitChar]
  | case2 n hn ih =>
      intro c hc
      rcases List.mem_append.1 hc with hLeading | hLast
      · exact ih c hLeading
      · rw [List.mem_singleton.1 hLast]
        exact isDigit_digitChar n

/-- Only zero has a leading zero. -/
theorem head?_decimal_ne_zero {n : Nat} (h : n ≠ 0) : (decimal n).head? ≠ some '0' := by
  fun_induction decimal n with
  | case1 n hn =>
      intro hHead
      have hValue := toNat_digitChar n
      rw [Option.some.inj hHead, Nat.mod_eq_of_lt hn] at hValue
      exact h hValue.symm
  | case2 n hn ih =>
      obtain ⟨c, rest, hc⟩ := List.exists_cons_of_ne_nil (decimal_ne_nil (n / 10))
      rw [hc] at ih ⊢
      exact ih (by omega)

end Text

namespace Number

theorem digitsValue_append (digits : List Char) (c : Char) :
    digitsValue (digits ++ [c]) = digitsValue digits * 10 + (c.toNat - 48) :=
  List.foldl_append

theorem digitsValue_decimal (n : Nat) : digitsValue (Text.decimal n) = n := by
  fun_induction Text.decimal n with
  | case1 n hn => simp [digitsValue, Text.toNat_digitChar, Nat.mod_eq_of_lt hn]
  | case2 n hn ih =>
      rw [digitsValue_append, ih, Text.toNat_digitChar]
      omega

end Number

namespace Document

/-- Whether a text does not go on with a number that ends before it. -/
def EndsNumber (rest : List Char) : Prop :=
  ∀ c ∈ rest.head?, c.isDigit = false ∧ c ≠ '.' ∧ c ≠ 'e' ∧ c ≠ 'E'

theorem endsNumber_nil : EndsNumber [] := nofun

theorem endsNumber_cons {c : Char} {rest : List Char}
    (h : c.isDigit = false ∧ c ≠ '.' ∧ c ≠ 'e' ∧ c ≠ 'E') : EndsNumber (c :: rest) := by
  rintro _ ⟨⟩
  exact h

theorem spanDigits_append {digits rest : List Char} (hDigits : ∀ c ∈ digits, c.isDigit = true)
    (hRest : EndsNumber rest) : spanDigits (digits ++ rest) = (digits, rest) := by
  have hStop : rest.takeWhile Char.isDigit = [] ∧ rest.dropWhile Char.isDigit = rest := by
    cases rest with
    | nil => exact ⟨rfl, rfl⟩
    | cons c rest => simp [(hRest c rfl).1]
  rw [spanDigits, List.takeWhile_append_of_pos hDigits, List.dropWhile_append_of_pos hDigits, hStop.1, hStop.2,
    List.append_nil]

theorem readFraction_of_endsNumber {rest : List Char} (h : EndsNumber rest) :
    readFraction rest = some (none, rest) := by
  unfold readFraction
  split
  · exact absurd rfl (h '.' rfl).2.1
  · rfl

theorem readExponent_of_endsNumber {rest : List Char} (h : EndsNumber rest) :
    readExponent rest = some (none, rest) := by
  unfold readExponent
  split
  · exact absurd rfl (h 'e' rfl).2.2.1
  · exact absurd rfl (h 'E' rfl).2.2.2
  · rfl

theorem readMagnitude_decimal (negative : Bool) (n : Nat) {rest : List Char} (h : EndsNumber rest) :
    readMagnitude negative (Text.decimal n ++ rest) = some (⟨negative, Text.decimal n, none, none⟩, rest) := by
  rw [readMagnitude, spanDigits_append (Text.isDigit_of_mem_decimal n) h]
  split
  · rename_i hEmpty
    exact absurd (Prod.mk.inj hEmpty).1 (Text.decimal_ne_nil n)
  · rename_i hZero
    have hDigits := (Prod.mk.inj hZero).1
    by_cases hn : n = 0
    · rw [hn, Text.decimal] at hDigits
      cases hDigits
    · exact absurd (by rw [hDigits]; rfl) (Text.head?_decimal_ne_zero hn)
  · rename_i hSpan
    obtain ⟨rfl, rfl⟩ := Prod.mk.inj hSpan
    rw [readFraction_of_endsNumber h]
    simp [readExponent_of_endsNumber h]

theorem readNumber_of_isDigit {c : Char} {rest : List Char} (h : c.isDigit = true) :
    readNumber (c :: rest) = readMagnitude false (c :: rest) := by
  unfold readNumber
  split
  · rename_i hMinus
    rw [(List.cons.inj hMinus).1] at h
    cases h
  · rfl

theorem readNumber_writeInt (n : Int) {rest : List Char} (h : EndsNumber rest) :
    readNumber (Json.writeInt n ++ rest) = some (⟨n < 0, Text.decimal n.natAbs, none, none⟩, rest) := by
  by_cases hNegative : n < 0
  · rw [Json.writeInt, if_pos hNegative, decide_eq_true hNegative]
    exact readMagnitude_decimal true n.natAbs h
  · rw [Json.writeInt, if_neg hNegative, decide_eq_false hNegative]
    obtain ⟨c, digits, hDigits⟩ := List.exists_cons_of_ne_nil (Text.decimal_ne_nil n.natAbs)
    have hDigit : c.isDigit = true := Text.isDigit_of_mem_decimal n.natAbs c (hDigits ▸ List.mem_cons_self)
    have hRead := readMagnitude_decimal false n.natAbs h
    rw [hDigits] at hRead ⊢
    rw [List.cons_append, readNumber_of_isDigit hDigit]
    exact hRead

/-! Strings. -/

/-- What an escaped character is read as. -/
def pieceOf (c : Char) : Piece :=
  if c.toNat < 0x20 ∧ c ≠ '\x08' ∧ c ≠ '\x0c' ∧ c ≠ '\n' ∧ c ≠ '\r' ∧ c ≠ '\t' then .code c.toNat else .char c

theorem hexNumber?_controlDigits {c : Char} (h : c.toNat < 0x20) :
    Text.hexNumber? (Json.controlDigits c) = some c.toNat := by
  unfold Json.controlDigits
  generalize c.toNat = n at h
  revert n
  decide

/-- A character that needs no escape is read as it stands. -/
theorem readPieces_plain {c : Char} (hQuote : c ≠ '"') (hBackslash : c ≠ '\\') (hControl : ¬ c.toNat < 0x20)
    (rest : List Char) :
    readPieces (c :: rest) = (readPieces rest).map fun (pieces, rest) => (.char c :: pieces, rest) := by
  have hPlain : ¬ (c.toNat < 0x20 ∨ c = '\\') := not_or.2 ⟨hControl, hBackslash⟩
  rw [readPieces]
  · rw [if_neg hPlain]
  · exact hQuote
  · exact fun _ _ _ _ _ h => absurd h hBackslash
  · exact fun _ _ h => absurd h hBackslash

theorem readPieces_escape (c : Char) (rest : List Char) :
    readPieces (Json.escape c ++ rest) = (readPieces rest).map fun (pieces, rest) => (pieceOf c :: pieces, rest) := by
  unfold Json.escape
  split
  · subst c; rfl
  split
  · subst c; rfl
  split
  · subst c; rfl
  split
  · subst c; rfl
  split
  · subst c; rfl
  split
  · subst c; rfl
  split
  · subst c; rfl
  split
  · rename_i hControl
    have hPiece : pieceOf c = .code c.toNat := if_pos ⟨hControl, by assumption, by assumption, by assumption,
      by assumption, by assumption⟩
    have hNumber := hexNumber?_controlDigits hControl
    rw [hPiece]
    simp only [Json.controlDigits, List.cons_append, List.nil_append] at hNumber ⊢
    rw [readPieces, hNumber]
  · rename_i hQuote hBackslash _ _ _ _ _ hControl
    have hPiece : pieceOf c = .char c := if_neg fun h => hControl h.1
    rw [hPiece, List.singleton_append, readPieces_plain hQuote hBackslash hControl]

theorem readPieces_flatMap (text rest : List Char) :
    readPieces (text.flatMap Json.escape ++ '"' :: rest) = some (text.map pieceOf, rest) := by
  induction text with
  | nil => rfl
  | cons c text ih => rw [List.flatMap_cons, List.append_assoc, readPieces_escape, ih]; rfl

/-- A code that is no half of a pair stands for a character of its own. -/
theorem assemble_code {n : Nat} (hHigh : isHighHalf n = false) (hLow : isLowHalf n = false) (pieces : List Piece) :
    assemble (.code n :: pieces) = (assemble pieces).map (Char.ofNat n :: ·) := by
  match pieces with
  | [] => simp [assemble, hHigh, hLow]
  | .char c :: rest => simp [assemble, hHigh, hLow]
  | .code m :: rest => simp [assemble, hHigh, hLow]

theorem assemble_map_pieceOf (text : List Char) : assemble (text.map pieceOf) = some text := by
  induction text with
  | nil => rfl
  | cons c text ih =>
      rw [List.map_cons, pieceOf]
      split
      · rename_i hControl
        have hHigh : isHighHalf c.toNat = false := by simp [isHighHalf]; omega
        have hLow : isLowHalf c.toNat = false := by simp [isLowHalf]; omega
        rw [assemble_code hHigh hLow, ih, Char.ofNat_toNat]
        rfl
      · rw [assemble, ih]
        rfl

theorem readString_writeText (text : String) (rest : List Char) :
    ∃ quoted, Json.writeText text ++ rest = '"' :: quoted ∧ readString quoted = some (some text, rest) := by
  refine ⟨text.toList.flatMap Json.escape ++ '"' :: rest, by simp [Json.writeText], ?_⟩
  rw [readString, readPieces_flatMap]
  simp [assemble_map_pieceOf]

/-! Values. -/

theorem isBlank_of_isDigit {c : Char} (h : c.isDigit = true) : isBlank c = false := by
  simp only [isBlank, Bool.or_eq_false_iff, decide_eq_false_iff_not]
  refine ⟨⟨⟨?_, ?_⟩, ?_⟩, ?_⟩ <;> rintro rfl <;> cases h

theorem skip_cons {c : Char} (h : isBlank c = false) (rest : List Char) : skip (c :: rest) = c :: rest := by
  rw [skip, List.dropWhile_cons_of_neg (by simp [h])]

/-- Whether the text of a value is read as the value, with two steps for each of its characters. -/
def Reads (j : Json) : Prop :=
  ∀ fuel rest, 2 * j.write.length ≤ fuel → EndsNumber rest → readValue fuel (j.write ++ rest) = (ofJson j, some rest)

theorem length_writeItems (items : List Json) : 0 < (Json.writeItems items).length := by
  cases items <;> simp [Json.writeItems]

theorem endsNumber_writeItems (items : List Json) (rest : List Char) : EndsNumber (Json.writeItems items ++ rest) := by
  cases items <;> exact endsNumber_cons (by decide)

theorem endsNumber_writeFields (fields : List (String × Json)) (rest : List Char) :
    EndsNumber (Json.writeFields fields ++ rest) := by
  cases fields <;> exact endsNumber_cons (by decide)

theorem readItems_write {item : Json} {items : List Json} (hItem : Reads item) (hItems : ∀ j ∈ items, Reads j)
    {fuel : Nat} (hFuel : 2 * (item.write.length + (Json.writeItems items).length) ≤ fuel) (rest : List Char) :
    readItems fuel (item.write ++ (Json.writeItems items ++ rest)) = (ofItems (item :: items), some rest) := by
  induction items generalizing item fuel with
  | nil =>
      obtain _ | fuel := fuel
      · simp [Json.writeItems] at hFuel
      · have hRead := hItem fuel _ (by simp [Json.writeItems] at hFuel; omega) (endsNumber_writeItems [] rest)
        rw [readItems, hRead]
        rfl
  | cons next items ih =>
      have hShort := length_writeItems items
      obtain _ | fuel := fuel
      · simp [Json.writeItems] at hFuel
      · simp only [Json.writeItems, List.length_cons, List.length_append] at hFuel
        have hRead := hItem fuel _ (by omega) (endsNumber_writeItems (next :: items) rest)
        have hFuel' : 2 * (next.write.length + (Json.writeItems items).length) ≤ fuel := by omega
        have hRest := ih (hItems next List.mem_cons_self) (fun j hj => hItems j (List.mem_cons_of_mem _ hj)) hFuel'
        rw [readItems, hRead]
        simp only [Json.writeItems, List.cons_append, List.append_assoc, skip_cons (c := ',') rfl, hRest, ofItems]

theorem readEntries_write {name : String} {value : Json} {fields : List (String × Json)} (hValue : Reads value)
    (hFields : ∀ f ∈ fields, Reads f.2) {fuel : Nat}
    (hFuel : 2 * ((Json.writeText name).length + value.write.length + (Json.writeFields fields).length) ≤ fuel)
    (rest : List Char) :
    readEntries fuel (Json.writeText name ++ ':' :: (value.write ++ (Json.writeFields fields ++ rest))) =
      (ofFields ((name, value) :: fields), some rest) := by
  induction fields generalizing name value fuel with
  | nil =>
      obtain _ | fuel := fuel
      · simp [Json.writeFields] at hFuel
      · have hRead := hValue fuel _ (by simp [Json.writeFields] at hFuel; omega) (endsNumber_writeFields [] rest)
        obtain ⟨quoted, hQuoted, hName⟩ := readString_writeText name
          (':' :: (value.write ++ (Json.writeFields [] ++ rest)))
        rw [hQuoted, readEntries, skip_cons rfl]
        simp only [hName, skip_cons (c := ':') rfl, hRead]
        rfl
  | cons next fields ih =>
      obtain ⟨name', value'⟩ := next
      obtain _ | fuel := fuel
      · simp [Json.writeFields] at hFuel
      · simp only [Json.writeFields, List.length_cons, List.length_append] at hFuel
        have hRead := hValue fuel _ (by omega) (endsNumber_writeFields ((name', value') :: fields) rest)
        have hNext : Reads value' := hFields (name', value') List.mem_cons_self
        have hFuel' : 2 * ((Json.writeText name').length + value'.write.length + (Json.writeFields fields).length)
            ≤ fuel := by omega
        have hRest := ih hNext (fun f hf => hFields f (List.mem_cons_of_mem _ hf)) hFuel'
        obtain ⟨quoted, hQuoted, hName⟩ := readString_writeText name
          (':' :: (value.write ++ (Json.writeFields ((name', value') :: fields) ++ rest)))
        rw [hQuoted, readEntries, skip_cons rfl]
        simp only [hName, skip_cons (c := ':') rfl, hRead]
        simp only [Json.writeFields, List.cons_append, List.append_assoc, skip_cons (c := ',') rfl, hRest, ofFields]

/-- The first character of an integer. -/
theorem exists_writeInt (n : Int) : ∃ c digits, Json.writeInt n = c :: digits ∧ (c = '-' ∨ c.isDigit = true) := by
  unfold Json.writeInt
  split
  · exact ⟨'-', _, rfl, .inl rfl⟩
  · obtain ⟨c, digits, hDigits⟩ := List.exists_cons_of_ne_nil (Text.decimal_ne_nil n.natAbs)
    have hDigit : c.isDigit = true := Text.isDigit_of_mem_decimal n.natAbs c (hDigits ▸ List.mem_cons_self)
    exact ⟨c, digits, hDigits, .inr hDigit⟩

/-- The first character of a value. -/
theorem exists_write (j : Json) : ∃ c text, j.write = c :: text ∧ isBlank c = false ∧ c ≠ ']' := by
  match j with
  | .null => exact ⟨_, _, rfl, rfl, by decide⟩
  | .bool true | .bool false => exact ⟨_, _, rfl, rfl, by decide⟩
  | .int n =>
      obtain ⟨c, digits, hInt, hFirst⟩ := exists_writeInt n
      refine ⟨c, digits, hInt, ?_⟩
      rcases hFirst with rfl | hDigit
      · exact ⟨rfl, by decide⟩
      · exact ⟨isBlank_of_isDigit hDigit, by rintro rfl; cases hDigit⟩
  | .string s => exact ⟨_, _, rfl, rfl, by decide⟩
  | .array [] | .array (_ :: _) => exact ⟨_, _, rfl, rfl, by decide⟩
  | .object [] | .object (_ :: _) => exact ⟨_, _, rfl, rfl, by decide⟩

/-- A value that begins with a minus sign or a digit is a number. -/
theorem readValue_number {c : Char} (h : c = '-' ∨ c.isDigit = true) {text : List Char} {n : Number}
    {rest : List Char} (hNumber : readNumber (c :: text) = some (n, rest)) (fuel : Nat) :
    readValue (fuel + 1) (c :: text) = (.number n, some rest) := by
  have hBlank : isBlank c = false := by
    rcases h with rfl | hDigit
    · rfl
    · exact isBlank_of_isDigit hDigit
  rw [readValue, skip_cons hBlank]
  -- Every row but the last one wants another first character.
  split
  all_goals first
    | (rename_i hLetter; obtain ⟨rfl, -⟩ := List.cons.inj hLetter; rcases h with h | h <;> cases h)
    | rw [hNumber]

theorem reads_scalar {j : Json} {text : List Char} (hText : text ≠ []) (hWrite : j.write = text)
    (h : ∀ fuel rest, EndsNumber rest → readValue (fuel + 1) (text ++ rest) = (ofJson j, some rest)) : Reads j := by
  intro fuel rest hFuel hRest
  have hShort := List.length_pos_iff.2 hText
  obtain _ | fuel := fuel
  · rw [hWrite] at hFuel
    omega
  · rw [hWrite]
    exact h fuel rest hRest

theorem reads_int (n : Int) : Reads (.int n) := by
  obtain ⟨c, digits, hInt, hFirst⟩ := exists_writeInt n
  refine reads_scalar (List.cons_ne_nil c digits) hInt fun fuel rest hRest => ?_
  have hNumber := readNumber_writeInt n hRest
  rw [hInt] at hNumber
  exact readValue_number hFirst hNumber fuel

theorem reads_string (s : String) : Reads (.string s) := by
  have hWrite : (Json.string s).write = Json.writeText s := rfl
  refine reads_scalar (List.cons_ne_nil _ _) hWrite fun fuel rest hRest => ?_
  obtain ⟨quoted, hQuoted, hString⟩ := readString_writeText s rest
  rw [← Json.writeText, hQuoted, readValue, skip_cons rfl]
  simp only [hString]
  rfl

theorem reads_array {items : List Json} (h : ∀ j ∈ items, Reads j) : Reads (.array items) := by
  cases items with
  | nil => exact reads_scalar (List.cons_ne_nil _ _) rfl fun _ _ _ => rfl
  | cons item items =>
      intro fuel rest hFuel hRest
      obtain ⟨hItem, hItems⟩ := List.forall_mem_cons.1 h
      obtain ⟨c, text, hText, hBlank, hBracket⟩ := exists_write item
      simp only [Json.write, List.length_cons, List.length_append] at hFuel
      obtain _ | fuel := fuel
      · omega
      · have hRead := readItems_write hItem hItems (show _ ≤ fuel by omega) rest
        rw [hText, List.cons_append] at hRead
        rw [Json.write, List.cons_append, List.append_assoc, hText, List.cons_append, readValue, skip_cons rfl]
        simp only [skip_cons hBlank]
        split
        · rename_i hClosing
          exact absurd (List.cons.inj hClosing).1 hBracket
        · rw [hRead]
          rfl

theorem reads_object {fields : List (String × Json)} (h : ∀ f ∈ fields, Reads f.2) : Reads (.object fields) := by
  cases fields with
  | nil => exact reads_scalar (List.cons_ne_nil _ _) rfl fun _ _ _ => rfl
  | cons field fields =>
      intro fuel rest hFuel hRest
      obtain ⟨name, value⟩ := field
      obtain ⟨hValue, hFields⟩ := List.forall_mem_cons.1 h
      obtain ⟨quoted, hQuoted, -⟩ :=
        readString_writeText name (':' :: (value.write ++ (Json.writeFields fields ++ rest)))
      simp only [Json.write, List.length_cons, List.length_append] at hFuel
      obtain _ | fuel := fuel
      · omega
      · have hFuel' : 2 * ((Json.writeText name).length + value.write.length + (Json.writeFields fields).length)
            ≤ fuel := by omega
        have hRead := readEntries_write hValue hFields hFuel' rest
        rw [hQuoted] at hRead
        rw [Json.write, List.cons_append, List.append_assoc, List.cons_append, List.append_assoc, hQuoted, readValue,
          skip_cons rfl]
        simp only [skip_cons (c := '"') rfl]
        split
        · rename_i hClosing
          cases (List.cons.inj hClosing).1
        · rw [hRead]
          rfl

/-- The text of every value is read as the value. -/
theorem reads : ∀ j : Json, Reads j
  | .null => reads_scalar (List.cons_ne_nil _ _) rfl fun _ _ _ => rfl
  | .bool true => reads_scalar (List.cons_ne_nil _ _) rfl fun _ _ _ => rfl
  | .bool false => reads_scalar (List.cons_ne_nil _ _) rfl fun _ _ _ => rfl
  | .int n => reads_int n
  | .string s => reads_string s
  | .array items => reads_array fun j _ => reads j
  | .object fields => reads_object fun (name, value) hField =>
      have : sizeOf value < sizeOf fields :=
        Nat.lt_trans (show sizeOf value < 1 + sizeOf name + sizeOf value by omega) (List.sizeOf_lt_of_mem hField)
      reads value

theorem read_write (j : Json) : read j.write = (ofJson j, some []) := by
  have hRead := reads j (2 * j.write.length + 2) [] (by omega) endsNumber_nil
  rwa [List.append_nil] at hRead

end Document

end VolumeController

import VolumeController.Json.Value
import VolumeController.Text.Hexadecimal
/-!
JSON text as far as it can be read. A document is a tree in reading order in which the first place that
breaks the grammar is a `broken` leaf or a container that is not closed; a consumer that walks the tree
from left to right meets its own objections and the broken place in the order of the text.
-/

namespace VolumeController

/-- A number as it is written. -/
structure Number where
  negative : Bool
  whole : List Char
  fraction : Option (List Char)
  exponent : Option (Bool × List Char)
  deriving DecidableEq

namespace Number

/-- The value of a row of decimal digits. -/
def digitsValue (digits : List Char) : Nat :=
  digits.foldl (fun n c => n * 10 + (c.toNat - 48)) 0

/-- The integer that a number without fraction and exponent names. Minus zero is no integer. -/
def int? (n : Number) : Option Int :=
  match n.fraction, n.exponent with
  | none, none =>
    let magnitude := digitsValue n.whole
    if n.negative then (if magnitude = 0 then none else some (-(magnitude : Int)))
    else some magnitude
  | _, _ => none

/-- The nearest number of at most 53 binary digits; of two that are equally near, the even one. -/
def toDouble (n : Nat) : Nat :=
  let unit := Nat.pow 2 (n.log2 - 52)
  let kept := n / unit
  let lost := n % unit
  if unit < 2 * lost || (unit == 2 * lost && kept % 2 == 1) then (kept + 1) * unit else kept * unit

/-- The least magnitude that rounds beyond the largest finite double. -/
def overflowLimit : Nat := Nat.pow 2 1024 - Nat.pow 2 970

/-- The largest significand, that of a 64-bit word. -/
def maxSignificand : Nat := UInt64.size - 1

/-- Adds digits to a significand for as long as it fits its word, and counts the digits that are left. -/
def significand : (value : Nat) → List Char → Nat × Nat
  | value, [] => (value, 0)
  | value, digit :: digits =>
    let next := value * 10 + (digit.toNat - 48)
    if next ≤ maxSignificand then significand next digits else (value, digits.length + 1)

/-- The significand and the power of ten that a number is computed from. Digits of the whole part that do
not fit count as places; those of the fraction are left out. -/
def parts (n : Number) : Nat × Int :=
  let fraction := n.fraction.getD []
  let (whole, places) := significand 0 n.whole
  let (value, left) := significand whole fraction
  let written : Int := match n.exponent with
    | none => 0
    | some (true, digits) => -(digitsValue digits : Int)
    | some (false, digits) => digitsValue digits
  (value, written + places - (fraction.length - left : Nat))

/-- Whether the number is too large for a double: such a number cannot be looked at as a value. It is
computed as a double times a power of ten that is itself a double, and the product is rounded once more. -/
def overflows (n : Number) : Bool :=
  let (value, power) := n.parts
  if value = 0 || power < 0 then false
  else if 308 < power then true
  else overflowLimit ≤ toDouble value * toDouble (Nat.pow 10 power.toNat)

end Number

/-- JSON text as far as it can be read. -/
inductive Document where
  | null
  | bool (value : Bool)
  | number (value : Number)
  /-- A string; none if it spells half of a surrogate pair, which no text contains. -/
  | string (value : Option String)
  | array (items : List Document) (closed : Bool)
  | object (entries : List (Option String × Document)) (closed : Bool)
  /-- The place where the text stops being JSON. -/
  | broken
  deriving Inhabited

namespace Document

/-- The blanks of JSON. -/
def isBlank (c : Char) : Bool :=
  c = ' ' || c = '\t' || c = '\n' || c = '\r'

/-- The text after its leading blanks. -/
def skip (text : List Char) : List Char :=
  text.dropWhile isBlank

/-- The character that a one-letter escape stands for. -/
def escaped? (c : Char) : Option Char :=
  if c = '"' then some '"'
  else if c = '\\' then some '\\'
  else if c = '/' then some '/'
  else if c = 'b' then some '\x08'
  else if c = 'f' then some '\x0c'
  else if c = 'n' then some '\n'
  else if c = 'r' then some '\r'
  else if c = 't' then some '\t'
  else none

/-- A piece of a string: a character, or the code of a four-digit escape. -/
inductive Piece where
  | char (c : Char)
  | code (n : Nat)

/-- Whether a code is the first half of a surrogate pair. -/
def isHighHalf (n : Nat) : Bool := 0xD800 ≤ n && n ≤ 0xDBFF

/-- Whether a code is the second half of a surrogate pair. -/
def isLowHalf (n : Nat) : Bool := 0xDC00 ≤ n && n ≤ 0xDFFF

/-- Reads the pieces of a string up to its closing quote. Control characters, unknown escapes and a
missing quote break the text. -/
def readPieces : List Char → Option (List Piece × List Char)
  | [] => none
  | '"' :: rest => some ([], rest)
  | '\\' :: 'u' :: a :: b :: c :: d :: rest =>
    match Text.hexNumber? [a, b, c, d] with
    | none => none
    | some n => (readPieces rest).map fun (pieces, rest) => (.code n :: pieces, rest)
  | '\\' :: c :: rest =>
    match escaped? c with
    | none => none
    | some e => (readPieces rest).map fun (pieces, rest) => (.char e :: pieces, rest)
  | c :: rest =>
    if c.toNat < 0x20 ∨ c = '\\' then none
    else (readPieces rest).map fun (pieces, rest) => (.char c :: pieces, rest)

/-- The characters of a row of pieces. A surrogate pair is one character, a lone half is none. -/
def assemble : List Piece → Option (List Char)
  | [] => some []
  | .char c :: rest => (assemble rest).map (c :: ·)
  | .code high :: .code low :: rest =>
    if isHighHalf high && isLowHalf low then
      (assemble rest).map (Char.ofNat (0x10000 + (high - 0xD800) * 0x400 + (low - 0xDC00)) :: ·)
    else if isHighHalf high || isLowHalf high then none
    else (assemble (.code low :: rest)).map (Char.ofNat high :: ·)
  | .code n :: rest =>
    if isHighHalf n || isLowHalf n then none else (assemble rest).map (Char.ofNat n :: ·)

/-- Reads a whole string after its opening quote. -/
def readString (text : List Char) : Option (Option String × List Char) :=
  (readPieces text).map fun (pieces, rest) => ((assemble pieces).map String.ofList, rest)

/-- Splits off the leading decimal digits. -/
def spanDigits (text : List Char) : List Char × List Char :=
  (text.takeWhile Char.isDigit, text.dropWhile Char.isDigit)

/-- Reads a fraction, if one follows. -/
def readFraction : List Char → Option (Option (List Char) × List Char)
  | '.' :: rest =>
    match spanDigits rest with
    | ([], _) => none
    | (digits, rest) => some (some digits, rest)
  | text => some (none, text)

/-- Reads the digits of an exponent. -/
def readExponentDigits (negative : Bool) (text : List Char) :
    Option (Option (Bool × List Char) × List Char) :=
  match spanDigits text with
  | ([], _) => none
  | (digits, rest) => some (some (negative, digits), rest)

/-- Reads the sign and digits of an exponent. -/
def readSignedExponent : List Char → Option (Option (Bool × List Char) × List Char)
  | '-' :: rest => readExponentDigits true rest
  | '+' :: rest => readExponentDigits false rest
  | rest => readExponentDigits false rest

/-- Reads an exponent, if one follows. -/
def readExponent : List Char → Option (Option (Bool × List Char) × List Char)
  | 'e' :: rest => readSignedExponent rest
  | 'E' :: rest => readSignedExponent rest
  | text => some (none, text)

/-- Reads a number without its sign. A leading zero stands alone before the fraction. -/
def readMagnitude (negative : Bool) (text : List Char) : Option (Number × List Char) :=
  match spanDigits text with
  | ([], _) => none
  | ('0' :: _ :: _, _) => none
  | (whole, rest) => do
    let (fraction, rest) ← readFraction rest
    let (exponent, rest) ← readExponent rest
    return (⟨negative, whole, fraction, exponent⟩, rest)

/-- Reads a number. -/
def readNumber : List Char → Option (Number × List Char)
  | '-' :: rest => readMagnitude true rest
  | text => readMagnitude false text

mutual

/-- Reads one value. The rest of the text is none when the text broke inside the value. -/
def readValue : Nat → List Char → Document × Option (List Char)
  | 0, _ => (.broken, none)
  | fuel + 1, text =>
    match skip text with
    | 'n' :: 'u' :: 'l' :: 'l' :: rest => (.null, some rest)
    | 't' :: 'r' :: 'u' :: 'e' :: rest => (.bool true, some rest)
    | 'f' :: 'a' :: 'l' :: 's' :: 'e' :: rest => (.bool false, some rest)
    | '"' :: rest =>
      match readString rest with
      | none => (.broken, none)
      | some (value, rest) => (.string value, some rest)
    | '[' :: rest =>
      match skip rest with
      | ']' :: rest => (.array [] true, some rest)
      | rest =>
        let (items, rest) := readItems fuel rest
        (.array items rest.isSome, rest)
    | '\x7b' :: rest =>
      match skip rest with
      | '\x7d' :: rest => (.object [] true, some rest)
      | rest =>
        let (entries, rest) := readEntries fuel rest
        (.object entries rest.isSome, rest)
    | rest =>
      match readNumber rest with
      | none => (.broken, none)
      | some (n, rest) => (.number n, some rest)

/-- Reads the items of an array up to its closing bracket. -/
def readItems : Nat → List Char → List Document × Option (List Char)
  | 0, _ => ([], none)
  | fuel + 1, text =>
    match readValue fuel text with
    | (item, none) => ([item], none)
    | (item, some rest) =>
      match skip rest with
      | ',' :: rest =>
        let (items, rest) := readItems fuel rest
        (item :: items, rest)
      | ']' :: rest => ([item], some rest)
      | _ => ([item], none)

/-- Reads the entries of an object up to its closing brace. -/
def readEntries : Nat → List Char → List (Option String × Document) × Option (List Char)
  | 0, _ => ([], none)
  | fuel + 1, text =>
    match skip text with
    | '"' :: rest =>
      match readString rest with
      | none => ([], none)
      | some (name, rest) =>
        match skip rest with
        | ':' :: rest =>
          match readValue fuel rest with
          | (value, none) => ([(name, value)], none)
          | (value, some rest) =>
            match skip rest with
            | ',' :: rest =>
              let (entries, rest) := readEntries fuel rest
              ((name, value) :: entries, rest)
            | '\x7d' :: rest => ([(name, value)], some rest)
            | _ => ([(name, value)], none)
        | _ => ([(name, .broken)], none)
    | _ => ([], none)

end

/-- Reads the first value of a text; what follows it is returned, or none if the value is broken. Two
steps are spent for each character that nests, so the text's length bounds the work. -/
def read (text : List Char) : Document × Option (List Char) :=
  readValue (2 * text.length + 2) text

mutual

/-- Whether the text of the value could be read to its end. -/
def isWhole : Document → Bool
  | .broken => false
  | .array items closed => closed && allWhole items
  | .object entries closed => closed && entriesWhole entries
  | _ => true

/-- Whether all of a list of values could be read to their ends. -/
def allWhole : List Document → Bool
  | [] => true
  | item :: items => isWhole item && allWhole items

/-- Whether the values of all entries could be read to their ends. -/
def entriesWhole : List (Option String × Document) → Bool
  | [] => true
  | (_, value) :: entries => isWhole value && entriesWhole entries

end

mutual

/-- A written value as it is read back. -/
def ofJson : Json → Document
  | .null => .null
  | .bool b => .bool b
  | .int n => .number ⟨n < 0, Text.decimal n.natAbs, none, none⟩
  | .string s => .string (some s)
  | .array items => .array (ofItems items) true
  | .object fields => .object (ofFields fields) true

/-- Written items as they are read back. -/
def ofItems : List Json → List Document
  | [] => []
  | item :: items => ofJson item :: ofItems items

/-- Written fields as they are read back. -/
def ofFields : List (String × Json) → List (Option String × Document)
  | [] => []
  | (name, value) :: fields => (some name, ofJson value) :: ofFields fields

end

end Document

end VolumeController

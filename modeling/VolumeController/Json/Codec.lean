import VolumeController.Dict
import VolumeController.Json.Document
/-!
Codecs: how values of a type are written as JSON and taken back from a document. A codec walks the
document in reading order, so of a broken place and a wrong shape the one met first is reported.
-/

namespace VolumeController

/-- Why a document is not a value of the wanted type. -/
inductive Rejection where
  /-- The text breaks the grammar of JSON. -/
  | malformed
  /-- The text is JSON of another shape. -/
  | mismatch
  deriving DecidableEq, Repr

/-- How the values of a type are written and read. -/
structure Codec (α : Type) where
  encode : α → Json
  decode : Document → Except Rejection α

namespace Document

/-- The objection to a document of an unwanted kind. A scalar is looked at as a value first: a string
that is no text and a number beyond the doubles do not get that far. -/
def objection : Document → Rejection
  | .broken => .malformed
  | .string none => .malformed
  | .number n => if n.overflows then .malformed else .mismatch
  | _ => .mismatch

/-- Passes over a value that nobody asked for: it only has to be readable. -/
def ignore (d : Document) : Except Rejection Unit :=
  if d.isWhole then .ok () else .error .malformed

end Document

namespace Codec

variable {α β : Type}

/-- Whether reading gives back every value that was written. -/
def Lawful (c : Codec α) : Prop :=
  ∀ a, c.decode (.ofJson (c.encode a)) = .ok a

/-- Text is written as a string. -/
def text : Codec String where
  encode := .string
  decode
    | .string (some s) => .ok s
    | d => .error d.objection

/-- A truth value. -/
def bool : Codec Bool where
  encode := .bool
  decode
    | .bool b => .ok b
    | d => .error d.objection

/-- An integer of a type with the range from `low` up to, not including, `high`. -/
def integer (low high : Int) (toInt : α → Int) (ofInt : Int → α) : Codec α where
  encode a := .int (toInt a)
  decode
    | .number n =>
      if n.overflows then .error .malformed
      else match n.int? with
        | none => .error .mismatch
        | some i => if low ≤ i ∧ i < high then .ok (ofInt i) else .error .mismatch
    | d => .error d.objection

/-- A signed 64-bit integer. -/
def int64 : Codec Int64 := integer (-0x8000000000000000) 0x8000000000000000 Int64.toInt Int64.ofInt

/-- A signed 32-bit integer. -/
def int32 : Codec Int32 := integer (-0x80000000) 0x80000000 Int32.toInt Int32.ofInt

/-- An unsigned 64-bit integer. -/
def uint64 : Codec UInt64 := integer 0 UInt64.size (fun n => (n.toNat : Int)) (fun i => .ofNat i.toNat)

/-- An unsigned 16-bit integer. -/
def uint16 : Codec UInt16 := integer 0 UInt16.size (fun n => (n.toNat : Int)) (fun i => .ofNat i.toNat)

/-- A value that may be absent, which is written as `null`. -/
def option (c : Codec α) : Codec (Option α) where
  encode
    | none => .null
    | some a => c.encode a
  decode
    | .null => .ok none
    | d => (c.decode d).map some

/-- Reads the items of an array in order, then its end. -/
def decodeItems (c : Codec α) (closed : Bool) : List Document → Except Rejection (List α)
  | [] => if closed then .ok [] else .error .malformed
  | d :: rest => do
    let a ← c.decode d
    let as ← decodeItems c closed rest
    return a :: as

/-- A list is written as an array. -/
def list (c : Codec α) : Codec (List α) where
  encode as := .array (as.map c.encode)
  decode
    | .array items closed => decodeItems c closed items
    | d => .error d.objection

/-- Reads the entries of a map in order, then its end; the last entry of a key counts. -/
def decodeEntries (c : Codec α) (closed : Bool) (m : Dict α) :
    List (Option String × Document) → Except Rejection (Dict α)
  | [] => if closed then .ok m else .error .malformed
  | (none, _) :: _ => .error .malformed
  | (some key, d) :: rest => do
    let a ← c.decode d
    decodeEntries c closed (m.insert key a) rest

/-- A map from text is written as an object, its keys in order. -/
def dict (c : Codec α) : Codec (Dict α) where
  encode m := .object (m.toList.map fun e => (e.1, c.encode e.2))
  decode
    | .object entries closed => decodeEntries c closed .empty entries
    | d => .error d.objection

/-- Reads the one entry of an object that names a case, and what follows it. -/
def decodeCase (cases : String → Document → Except Rejection α) : Document → Except Rejection α
  | .object ((some name, d) :: rest) closed => do
    let a ← cases name d
    if rest.isEmpty && closed then return a else throw .malformed
  | .object _ _ => .error .malformed
  | d => .error d.objection

/-- One of a few named values. The name may also stand as the only key of an object, over `null`. -/
def oneOf (name : α → String) (all : List α) : Codec α where
  encode a := .string (name a)
  decode
    | .string (some s) => find s
    | d => decodeCase (fun s d => do
        let a ← find s
        match d with
        | .null => return a
        | d => throw d.objection) d
where
  /-- The value of a name. -/
  find (s : String) : Except Rejection α :=
    match all.find? fun a => name a == s with
    | some a => .ok a
    | none => .error .mismatch

/-- A codec along a change of type. -/
def map (c : Codec α) (f : α → β) (g : β → α) : Codec β where
  encode b := c.encode (g b)
  decode d := (c.decode d).map f

/-- Reads a document to the end of its first value, whatever follows. -/
def read (c : Codec α) (text : List Char) : Except Rejection α :=
  c.decode (Document.read text).1

/-- Reads a whole text, which may end in blanks. -/
def readWhole (c : Codec α) (text : List Char) : Except Rejection α := do
  let (d, rest) := Document.read text
  let a ← c.decode d
  match rest with
  | none => throw .malformed
  | some rest => if (Document.skip rest).isEmpty then return a else throw .malformed

/-- The compact text of a value. -/
def write (c : Codec α) (a : α) : String :=
  (c.encode a).render

end Codec

end VolumeController

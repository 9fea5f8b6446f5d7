import VolumeController.Json.Codec
/-!
Codecs of records. A record is written as an object with its fields in declaration order. It is read
from an object with its fields in any order, unknown ones passed over and a repeated one refused, or
from an array with its fields in declaration order.
-/

namespace VolumeController

/-- One field of a record. -/
structure Field (α : Type) where
  name : String
  codec : Codec α
  /-- The value of a field that is left out; none if it must be there. -/
  absent : Option α
  /-- Whether the field may also be left out at the end of an array. -/
  trailing : Bool
  /-- The values that are not written. -/
  hidden : α → Bool

namespace Field

variable {α : Type}

/-- A field that must be there. -/
def required (name : String) (codec : Codec α) : Field α :=
  ⟨name, codec, none, false, fun _ => false⟩

/-- A field with a value of its own when it is left out. -/
def defaulted (name : String) (codec : Codec α) (value : α) : Field α :=
  ⟨name, codec, some value, true, fun _ => false⟩

/-- A field that may be absent; absence is written as `null`. -/
def optional (name : String) (codec : Codec α) : Field (Option α) :=
  defaulted name codec.option none

/-- A field that may be absent and is then not written. -/
def omittable (name : String) (codec : Codec α) : Field (Option α) :=
  ⟨name, codec.option, some none, true, Option.isNone⟩

end Field

/-- The fields of a record, in declaration order. -/
inductive Fields : List Type → Type 1 where
  | nil : Fields []
  | cons {α : Type} {αs : List Type} (field : Field α) (rest : Fields αs) : Fields (α :: αs)

namespace Fields

/-- One value for each field. -/
@[reducible] def Values : List Type → Type
  | [] => Unit
  | α :: αs => α × Values αs

/-- The fields read so far. -/
@[reducible] def Slots : List Type → Type
  | [] => Unit
  | α :: αs => Option α × Slots αs

variable {α : Type} {αs : List Type}

/-- The written fields. -/
def encode : {αs : List Type} → Fields αs → Values αs → List (String × Json)
  | _, .nil, _ => []
  | _, .cons field rest, (a, as) =>
    if field.hidden a then rest.encode as
    else (field.name, field.codec.encode a) :: rest.encode as

/-- No field read yet. -/
def blank : {αs : List Type} → Fields αs → Slots αs
  | _, .nil => ()
  | _, .cons _ rest => (none, rest.blank)

/-- Reads the value of a named field into its slot. A repeated field is refused before its value is
looked at; the value of an unknown one is passed over. -/
def fill : {αs : List Type} → Fields αs → String → Document → Slots αs → Except Rejection (Slots αs)
  | _, .nil, _, d, slots => d.ignore.map fun _ => slots
  | _, .cons field rest, name, d, (slot, slots) =>
    if field.name = name then
      match slot with
      | some _ => .error .mismatch
      | none => (field.codec.decode d).map fun a => (some a, slots)
    else (rest.fill name d slots).map fun slots => (slot, slots)

/-- The record of the filled slots: left out fields take their own values, if they have one. -/
def finish : {αs : List Type} → Fields αs → Slots αs → Except Rejection (Values αs)
  | _, .nil, _ => .ok ()
  | _, .cons field rest, (slot, slots) =>
    match slot.or field.absent with
    | none => .error .mismatch
    | some a => (rest.finish slots).map fun as => (a, as)

/-- Reads the entries of an object in order, then its end. -/
def decodeEntries (fields : Fields αs) (closed : Bool) (slots : Slots αs) :
    List (Option String × Document) → Except Rejection (Values αs)
  | [] => if closed then fields.finish slots else .error .malformed
  | (none, _) :: _ => .error .malformed
  | (some name, d) :: entries => do
    let slots ← fields.fill name d slots
    fields.decodeEntries closed slots entries

/-- Reads the items of an array in declaration order, then its end. -/
def decodeItems (closed : Bool) : {αs : List Type} → Fields αs → List Document →
    Except Rejection (Values αs)
  | _, .nil, items => if items.isEmpty && closed then .ok () else .error .malformed
  | _, .cons field rest, [] =>
    if closed then
      match if field.trailing then field.absent else none with
      | none => .error .mismatch
      | some a => (rest.decodeItems closed []).map fun as => (a, as)
    else .error .malformed
  | _, .cons field rest, d :: items => do
    let a ← field.codec.decode d
    let as ← rest.decodeItems closed items
    return (a, as)

end Fields

namespace Codec

variable {β : Type} {αs : List Type}

/-- A record with the given fields. -/
def record (fields : Fields αs) (make : Fields.Values αs → β) (parts : β → Fields.Values αs) :
    Codec β where
  encode b := .object (fields.encode (parts b))
  decode
    | .object entries closed => (fields.decodeEntries closed fields.blank entries).map make
    | .array items closed => (fields.decodeItems closed items).map make
    | d => .error d.objection

/-- A record that is read from an object only. -/
def named (c : Codec β) : Codec β where
  encode := c.encode
  decode
    | .array _ _ => .error .mismatch
    | d => c.decode d

end Codec

end VolumeController

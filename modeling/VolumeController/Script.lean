import VolumeController.Disk.Codec
import VolumeController.Platform
/-!
Scripts: a platform that answers calls with prepared replies, one after the other, whatever the calls
ask.
-/

namespace VolumeController

/-- A prepared reply: how long it takes, and what it says. -/
structure ScriptedReply where
  delay : Nat
  answer : Except BackendError Document

/-- A platform that answers from a list of replies. -/
structure Script where
  centers : List String
  replies : List ScriptedReply

namespace Script

/-- The failure of a call that finds no reply left. -/
def exhausted : BackendError := .api "script" "exhausted"

/-- The failure of a call whose reply is of another kind. -/
def unreadable : BackendError := .api "script" "unreadable"

/-- The datacenter of a name. A script keeps no datacenters, so all have one place. -/
def datacenter (name : String) : Datacenter := ⟨name, 0⟩

/-- A prepared text; empty if the reply is no text. -/
def text : Document → String
  | .string (some s) => s
  | _ => ""

/-- A field of a prepared record. -/
def field (name : String) : Document → Document
  | .object entries _ => (entries.lookup (some name)).getD .null
  | _ => .null

/-- A prepared site: a record of its endpoint and datacenter. -/
def site (d : Document) : Site :=
  ⟨text (field "vc" d), datacenter (text (field "dc" d))⟩

/-- The items of a prepared list; none if the reply is no list. -/
def items : Document → List Document
  | .array items _ => items
  | _ => []

/-- Reads a prepared reply as the answer of a call. -/
def decode (d : Document) : (c : Call) → Except Rejection c.Answer
  | .apiVersion _ => .ok (text d)
  | .resolveZone _ => .ok (site d)
  | .listSites => .ok ((items d).map site)
  | .findByName _ _ _ => Disk.valueCodec.option.decode d
  | .findById _ _ => Disk.valueCodec.option.decode d
  | .createDisk _ _ _ _ => .ok ()
  | .deleteDisk _ _ _ => .ok ()
  | .listDisks _ => (items d).mapM Disk.valueCodec.decode
  | .findNode dc _ => .ok ⟨text d, dc⟩
  | .attachDisk _ _ _ => .ok (text d)
  | .detachDisk _ _ => .ok ()

/-- The reply that a started call remembered, as its answer. -/
def reply (c : Call) : Except BackendError Document → c.Reply
  | .error failure => .error failure
  | .ok d =>
    match decode d c with
    | .ok a => .ok a
    | .error _ => .error unreadable

/-- A call takes the next reply when it starts. -/
instance : Platform Script where
  Ticket := Except BackendError Document
  centers := centers
  datacenter? _ _ name := some (datacenter name)
  start _ script :=
    match script.replies with
    | [] => (.error exhausted, 0, script)
    | r :: rest => (r.answer, r.delay, { script with replies := rest })
  finish c answer script := (reply c answer, [], script)

end Script

end VolumeController

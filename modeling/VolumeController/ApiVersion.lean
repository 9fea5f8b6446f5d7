import VolumeController.Cause
import VolumeController.Text.WhiteSpace
/-!
API versions: first class disks exist from version 6.5 on.
-/

namespace VolumeController.ApiVersion

/-- The first version with first class disks. -/
def minimum : Nat × Nat := (6, 5)

/-- Version components are unsigned 32-bit numbers. -/
def componentBound : Nat := UInt32.size

/-- The first two components of a version: what stands before the first dot, and between it and the
next. A version without dots has the second component zero. -/
def components? (version : List Char) : Option (Nat × Nat) :=
  let read (text : List Char) := (Text.readNat componentBound text).toOption
  match version.dropWhile (· != '.') with
  | [] => (read version).map fun major => (major, 0)
  | _ :: rest =>
    match read (version.takeWhile (· != '.')), read (rest.takeWhile (· != '.')) with
    | some major, some minor => some (major, minor)
    | _, _ => none

/-- Whether one pair of components comes before another. -/
def precedes (a b : Nat × Nat) : Bool :=
  a.1 < b.1 || (a.1 == b.1 && a.2 < b.2)

/-- Accepts the versions that support first class disks. White space around a version does not count. -/
def check (version : String) : Except Cause Unit :=
  match components? (Text.trim version.toList) with
  | none => .error (.versionUnreadable version)
  | some components =>
    if precedes components minimum then .error (.versionTooOld version) else .ok ()

end VolumeController.ApiVersion

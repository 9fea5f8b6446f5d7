import VolumeController.ApiVersion
import VolumeController.Procedure
/-!
The start-up check: every virtual center must report an API version with first class disks.
-/

namespace VolumeController.Startup

/-- Checks virtual centers in order; the first one that fails ends the check. -/
def checkCenters : List String → Operation Unit
  | [] => return ()
  | center :: centers => do
    match ← Operation.call "APIVersion" (.apiVersion center) with
    | .error failure =>
      Operation.note (.versionUnanswered failure)
      throw (Cause.versionUnanswered center failure).toError
    | .ok version =>
      match ApiVersion.check version with
      | .error cause =>
        Operation.note (.versionRefused center cause.toError)
        throw cause.toError
      | .ok () =>
        Operation.note (.versionAccepted center version)
        checkCenters centers

/-- Checks every configured virtual center. -/
def check : Operation Unit := do
  checkCenters (← Operation.perform .centers)

end VolumeController.Startup

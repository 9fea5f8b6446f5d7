/-!
What the program tells about itself.
-/

namespace VolumeController.About

/-- The name of the program. -/
def name : String := "fcd-csi-controller"

/-- The version of the program. -/
def version : String := "0.2.0"

/-- The port that the HTTP service listens on. -/
def restPort : Nat := 8090

end VolumeController.About

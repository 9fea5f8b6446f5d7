import VolumeController.About
import VolumeController.Config.Yaml
/-!
The command line: where the configuration is, and what is set besides it.
-/

namespace VolumeController

/-- What the program was started with. -/
structure CommandLine where
  /-- The path of the configuration file. -/
  config : Option String := none
  /-- The time that a request may take, in place of the configured one. -/
  requestTimeoutSecs : Option UInt64 := none
  serializeCreates : Bool := false
  showVersion : Bool := false
  deriving DecidableEq

namespace CommandLine

/-- Reads a number of seconds. -/
def seconds? (text : String) : Option UInt64 :=
  match Text.readNat UInt64.size text.toList with
  | .ok n => some (.ofNat n)
  | .error _ => none

/-- Reads arguments from the left onto what was read before; the first one that is not understood is the
error. -/
def readFrom (line : CommandLine) : List String → Except String CommandLine
  | [] => .ok line
  | "--config" :: path :: rest => readFrom { line with config := some path } rest
  | "--request-timeout-secs" :: text :: rest =>
    match seconds? text with
    | some secs => readFrom { line with requestTimeoutSecs := some secs } rest
    | none => .error text
  | "--serialize-creates" :: rest => readFrom { line with serializeCreates := true } rest
  | "--version" :: rest => readFrom { line with showVersion := true } rest
  | argument :: _ => .error argument

/-- Reads the arguments of the program. -/
def read (arguments : List String) : Except String CommandLine := readFrom {} arguments

/-- Sets in a configuration what the command line sets. -/
def override (line : CommandLine) (config : Config) : Config :=
  { config with controller :=
    { serializeCreates := line.serializeCreates || config.controller.serializeCreates
      requestTimeoutSecs := line.requestTimeoutSecs.getD config.controller.requestTimeoutSecs } }

/-- The configuration to start with, given the contents of the configuration file if there is one. No
file at all is an empty inventory. -/
def configuration (line : CommandLine) (contents : Option String) : Except Error Config :=
  match line.config with
  | none => .ok (line.override {})
  | some path => (Config.load path contents).map line.override

end CommandLine

end VolumeController

import VolumeController.CommandLine
import VolumeController.Http.Exchange
import VolumeController.Simulation.Scenario
/-!
The program: a controller over the configured inventory. It checks the virtual centers, and then answers
requests, one to a line of its input, until the input ends. The log goes to the error output.
-/

namespace VolumeController.Program

/-- Writes the events of a step to the log. -/
def writeLog (events : List Event) : IO Unit := do
  for event in events do
    IO.eprintln (event.level.text ++ " " ++ event.message)

/-- Answers the request of a line, and writes the log of it. -/
def respond (setup : Setup) (lab : Lab Inventory) (line : String) : IO (Json × Lab Inventory) := do
  match Http.Request.codec.readWhole line.toList with
  | .error rejection => return (ErrorReport.codec.encode (.ofError rejection.toError), lab)
  | .ok request =>
    let (trace, lab) := Scenario.runSteps setup [⟨.http request, none, 0⟩] lab
    writeLog trace.events
    match trace.results with
    | [some (.ok (.response response))] => return (response.toJson, lab)
    | _ => return (.null, lab)

/-- Answers the lines of the input until it ends. -/
partial def serve (setup : Setup) (lab : Lab Inventory) : IO Unit := do
  let line ← (← IO.getStdin).getLine
  if line.isEmpty then return
  let (answer, lab) ← respond setup lab line
  IO.println answer.render
  serve setup lab

/-- Checks the virtual centers and serves. -/
def start (config : Config) : IO UInt32 := do
  let setup : Setup := ⟨config⟩
  let (trace, lab) :=
    Scenario.runSteps setup [⟨.startup, none, 0⟩] (Scenario.start (Inventory.ofConfig config))
  writeLog trace.events
  match trace.results with
  | [some (.ok _)] =>
    serve setup lab
    return 0
  | _ => return 1

/-- Reads a file; none if there is no such file. -/
def contents? (path : String) : IO (Option String) := do
  try return some (← IO.FS.readFile path)
  catch
    | .noFileOrDirectory _ _ _ => return none
    | e => throw e

end VolumeController.Program

open VolumeController in
/-- Starts the program with its arguments. -/
def main (arguments : List String) : IO UInt32 := do
  match CommandLine.read arguments with
  | .error argument =>
    IO.eprintln ("unexpected argument: " ++ argument)
    return 2
  | .ok line =>
    if line.showVersion then
      IO.println (About.name ++ " " ++ About.version)
      return 0
    let contents ← match line.config with
      | some path => Program.contents? path
      | none => pure none
    match line.configuration contents with
    | .error e =>
      IO.eprintln e.message
      return 1
    | .ok config => Program.start config

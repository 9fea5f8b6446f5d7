import VolumeController.Status
import VolumeController.Text.Numeral
/-!
Metrics: how often each operation ended with each code, and how many durations were sampled.
-/

namespace VolumeController

/-- How often an operation ended with a code. -/
structure OutcomeSeries where
  operation : String
  code : String
  count : Nat
  deriving DecidableEq, Repr

/-- How many durations of an operation were sampled. -/
structure DurationSeries where
  operation : String
  samples : Nat
  deriving DecidableEq, Repr

/-- The series that exist, in the order they came up. -/
structure Metrics where
  outcomes : List OutcomeSeries := []
  durations : List DurationSeries := []
  deriving DecidableEq, Repr

namespace Metrics

/-- Whether a series is the one of an operation and a code. Series are told apart by their label values
written one after the other. -/
def isSeriesOf (operation code : String) (s : OutcomeSeries) : Bool :=
  s.operation ++ s.code == operation ++ code

/-- Adds to the counter of an operation and a code, which is made if it is not there. -/
def addOutcome (operation code : String) (amount : Nat) : List OutcomeSeries → List OutcomeSeries
  | [] => [⟨operation, code, amount⟩]
  | s :: rest =>
    if isSeriesOf operation code s then { s with count := s.count + amount } :: rest
    else s :: addOutcome operation code amount rest

/-- Adds a sample to the durations of an operation. -/
def addSample (operation : String) : List DurationSeries → List DurationSeries
  | [] => [⟨operation, 1⟩]
  | s :: rest =>
    if s.operation = operation then { s with samples := s.samples + 1 } :: rest
    else s :: addSample operation rest

/-- The name under which an outcome is counted: the code of the error, or that of success. -/
def outcomeName : Option StatusCode → String
  | none => "OK"
  | some code => code.wireName

/-- Counts a finished request. -/
def observe (m : Metrics) (operation : String) (code : Option StatusCode) : Metrics :=
  ⟨addOutcome operation (outcomeName code) 1 m.outcomes, addSample operation m.durations⟩

/-- The counter of an operation and a code, zero if there is none. -/
def count (m : Metrics) (operation code : String) : Nat :=
  ((m.outcomes.find? (isSeriesOf operation code)).map (·.count)).getD 0

/-- Makes sure that the counter of an operation and a code exists. -/
def touch (m : Metrics) (operation code : String) : Metrics :=
  { m with outcomes := addOutcome operation code 0 m.outcomes }

/-- How many durations of an operation were sampled. -/
def samples (m : Metrics) (operation : String) : Nat :=
  ((m.durations.find? (·.operation == operation)).map (·.samples)).getD 0

/-- The family of the counters. -/
def outcomeFamily : String := "fcd_csi_controller_operations_total"

/-- The family of the durations. -/
def durationFamily : String := "fcd_csi_controller_operation_duration_seconds"

/-- The names of the families that have series, in order. -/
def families (m : Metrics) : List String :=
  (if m.durations.isEmpty then [] else [durationFamily]) ++
    (if m.outcomes.isEmpty then [] else [outcomeFamily])

/-- The media type of the text exposition. -/
def mediaType : String := "text/plain; version=0.0.4"

/-- A label value between quotes: backslashes, quotes and line ends stand behind a backslash. -/
def labelText (value : String) : String :=
  String.ofList ('"' :: (value.toList.flatMap escape ++ ['"']))
where
  /-- How one character of a label value is written. -/
  escape (c : Char) : List Char :=
    if c = '\\' then ['\\', '\\']
    else if c = '"' then ['\\', '"']
    else if c = '\n' then ['\\', 'n']
    else [c]

/-- Whether one counter is listed before another: by code, then by operation. -/
def listedBefore (a b : OutcomeSeries) : Bool :=
  if a.code = b.code then a.operation ≤ b.operation else a.code ≤ b.code

/-- The head of a family: its help text and its type. -/
def heading (family help type : String) : List String :=
  [s!"# HELP {family} {help}", s!"# TYPE {family} {type}"]

/-- The line of a counter. -/
def outcomeLine (s : OutcomeSeries) : String :=
  outcomeFamily ++ "\x7bcode=" ++ labelText s.code ++ ",operation=" ++ labelText s.operation ++
    "\x7d " ++ Text.natText s.count

/-- The line with the number of sampled durations. -/
def durationLine (s : DurationSeries) : String :=
  durationFamily ++ "_count\x7boperation=" ++ labelText s.operation ++ "\x7d " ++
    Text.natText s.samples

/-- The lines of the text exposition, but for the measured times. -/
def exposition (m : Metrics) : List String :=
  (if m.durations.isEmpty then []
    else heading durationFamily "Duration of controller RPCs" "histogram" ++
      (m.durations.mergeSort (·.operation ≤ ·.operation)).map durationLine) ++
  (if m.outcomes.isEmpty then []
    else heading outcomeFamily "Controller RPCs by operation and outcome code" "counter" ++
      (m.outcomes.mergeSort listedBefore).map outcomeLine)

end Metrics

end VolumeController

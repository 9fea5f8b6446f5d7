import VolumeController.Simulation.Bench
import VolumeController.Simulation.Schedule
import VolumeController.Startup
/-!
Scenarios: steps that are carried out one after the other, or side by side, on one platform. Over the
platform stand a controller, the HTTP service, and a volume store of its own.
-/

namespace VolumeController

/-- What a scenario is set up with. -/
structure Setup where
  config : Config
  deriving DecidableEq

namespace Setup

/-- The controller. -/
def controller (s : Setup) : Controller :=
  ⟨s.config.labels, ⟨s.config.controller.serializeCreates, 0⟩⟩

/-- The volume store beside the controller, with locks of its own. -/
def store (s : Setup) : VolumeStore :=
  ⟨s.config.controller.serializeCreates, 1⟩

/-- The token that ends the HTTP service. -/
def shutdownToken : Nat := 0

end Setup

/-- What a cancellation is aimed at. -/
inductive CancelTarget where
  | context (name : String)
  | token (name : String)
  deriving DecidableEq

/-- A call made straight to the platform, outside of any request. -/
inductive Probe where
  | call (c : Call)
  /-- Finds a node and attaches a file to it. -/
  | attach (datacenter : Datacenter) (node path : String)
  /-- Finds a node and detaches a file from it. -/
  | detach (datacenter : Datacenter) (node path : String)

/-- One step on a platform with the given commands. -/
inductive Step (κ : Type) where
  /-- An operation of the service, given by its name and message. -/
  | rpc (method : String) (message : Document)
  | startup
  | http (request : Http.Request)
  | shutdown
  | metricCount (operation code : String)
  | exposition
  | families
  | makeContext (name : String) (token : Option String) (timeout : Option Nat)
  | cancel (target : CancelTarget) (after : Option Nat)
  | isCancelled
  | work (operation : String) (duration : Option Nat)
  | clock
  | centers
  | probe (p : Probe)
  | hasDatacenter (found : Bool)
  | command (c : κ)
  | storeCreate (datacenter : Datacenter) (pool : Pool) (name : String) (sizeMb : UInt64)
  | storeResolve (id : String)
  | storeDelete (datacenter : Datacenter) (pool : Pool) (id : String)
  | resolvePlacement (placement : Placement)
  | allDisks
  | attach (datacenter : Datacenter) (node : String) (disk : Document)
  | detach (datacenter : Datacenter) (node : String) (disk : Document)
  /-- A step that cannot be carried out. -/
  | invalid (error : Error)

/-- A step with the context that it runs under and the time that it waits first. -/
structure TimedStep (κ : Type) where
  step : Step κ
  context : Option String
  delay : Nat

/-- What a step shows of the answer of a call. -/
def Answer.ofCall : (c : Call) → c.Answer → Answer
  | .apiVersion _, version => .text version
  | .resolveZone _, found => .site found
  | .listSites, found => .sites found
  | .findByName _ _ _, found => .disk found
  | .findById _ _, found => .disk found
  | .createDisk _ _ _ _, _ => .nothing
  | .deleteDisk _ _ _, _ => .nothing
  | .listDisks _, found => .disks found
  | .findNode _ _, found => .text found.name
  | .attachDisk _ _ _, handle => .text handle
  | .detachDisk _ _, _ => .nothing

namespace Probe

/-- Makes a call and passes its failure through. -/
def direct (c : Call) : Operation c.Answer := do
  match ← Operation.call "" c with
  | .ok answer => return answer
  | .error failure => throw (.backend failure)

/-- Carries out a probe. -/
def run : Probe → Operation Answer
  | .call c => do return .ofCall c (← direct c)
  | .attach dc node path => do
    let node ← direct (.findNode dc node)
    return .text (← direct (.attachDisk node path Attachment.defaultController))
  | .detach dc node path => do
    let node ← direct (.findNode dc node)
    direct (.detachDisk node path)
    return .nothing

end Probe

namespace Lab

variable {σ : Type}

/-- The context of a name; without a name, or for an unknown one, one that nothing ends. -/
def context (lab : Lab σ) (name : Option String) : Context :=
  (name.bind fun name => lab.contexts.lookup name).getD .background

/-- The token of a name, made if there is none. -/
def token (lab : Lab σ) (name : String) : Nat × Lab σ :=
  match lab.tokens.lookup name with
  | some token => (token, lab)
  | none =>
    (lab.nextToken,
      { lab with tokens := (name, lab.nextToken) :: lab.tokens, nextToken := lab.nextToken + 1 })

/-- Makes a context: it listens to a token of its own and to the named one. -/
def makeContext (lab : Lab σ) (name : String) (token : Option String) (timeout : Option Nat) : Lab σ :=
  let own := lab.nextToken
  let lab := { lab with nextToken := own + 1 }
  let (tokens, lab) := match token with
    | none => ([own], lab)
    | some token =>
      let (parent, lab) := lab.token token
      ([own, parent], lab)
  let ctx : Context := ⟨tokens, timeout.map (lab.world.now + ·)⟩
  { lab with contexts := (name, ctx) :: lab.contexts }

/-- The token that a cancellation is aimed at: the named one, or the context's own. -/
def targetToken? (lab : Lab σ) : CancelTarget → Option Nat × Lab σ
  | .token name =>
    let (token, lab) := lab.token name
    (some token, lab)
  | .context name => ((lab.contexts.lookup name).bind (·.tokens.head?), lab)

/-- Cancels a token. -/
def cancelToken (lab : Lab σ) (token : Nat) : Lab σ :=
  { lab with world := { lab.world with cancelled := token :: lab.world.cancelled } }

/-- Cancels now, or after some time. -/
def cancel (lab : Lab σ) (target : CancelTarget) (after : Option Nat) : Lab σ :=
  match lab.targetToken? target with
  | (none, lab) => lab
  | (some token, lab) =>
    match after with
    | none => lab.cancelToken token
    | some time => { lab with timers := lab.timers ++ [⟨lab.world.after time, token⟩] }

end Lab

namespace Step

variable {σ : Type} [Bench σ]

/-- A step that is over at once. -/
def immediate (result : StepResult) (lab : Lab σ) : (Context × Procedure StepResult) × Lab σ :=
  ((.background, .done result), lab)

/-- A step that runs under a context. -/
def under (ctx : Context) (op : Operation Answer) (lab : Lab σ) :
    (Context × Procedure StepResult) × Lab σ :=
  ((ctx, op.run), lab)

/-- Reads a message and carries out an operation of the service with it. -/
def callMethod (c : Controller) (name : String) (message : Document) : Operation Answer :=
  match Service.find? name with
  | none => throw (.unimplemented name)
  | some m =>
    match m.request.decode message with
    | .error rejection => throw rejection.toError
    | .ok request => do return .message (m.response.encode (← m.handle c request))

/-- Finds a node, reads a disk, and hands both to an operation. -/
def withNode (dc : Datacenter) (node : String) (disk : Document)
    (op : Node → Disk → Operation Answer) : Operation Answer := do
  let node ← Attachment.resolveNode dc node
  match Disk.valueCodec.decode disk with
  | .error rejection => throw rejection.toError
  | .ok disk => op node disk

/-- Begins a step under a context. -/
def begin (setup : Setup) (ctx : Context) :
    Step (Bench.Command σ) → Lab σ → (Context × Procedure StepResult) × Lab σ
  | .rpc method message => under ctx (callMethod setup.controller method message)
  | .startup => under ctx (do Startup.check; return .nothing)
  | .http request => fun lab =>
    ((Http.requestContext Setup.shutdownToken setup.config.controller.requestTimeoutSecs
        lab.world.now,
      do return .ok (.response (← Http.respond setup.controller request))), lab)
  | .shutdown => fun lab => immediate (.ok .nothing) (lab.cancelToken Setup.shutdownToken)
  | .metricCount operation code => fun lab =>
    let metrics := lab.world.metrics.touch operation code
    immediate (.ok (.count (metrics.count operation code)))
      { lab with world := { lab.world with metrics } }
  | .exposition => fun lab =>
    immediate (.ok (.exposition Metrics.mediaType lab.world.metrics.exposition)) lab
  | .families => fun lab => immediate (.ok (.texts lab.world.metrics.families)) lab
  | .makeContext name token timeout => fun lab =>
    immediate (.ok .nothing) (lab.makeContext name token timeout)
  | .cancel target after => fun lab => immediate (.ok .nothing) (lab.cancel target after)
  | .isCancelled => fun lab =>
    immediate (.ok (.flag (ctx.isCancelled lab.world.cancelled))) lab
  | .work operation duration =>
    under ctx (do Operation.wait operation (.work duration); return .nothing)
  | .clock => fun lab => immediate (.ok (.count lab.world.now)) lab
  | .centers => fun lab => immediate (.ok (.texts (Platform.centers lab.world.platform))) lab
  | .probe p => under .background p.run
  | .hasDatacenter found => immediate (.ok (.flag found))
  | .command c => fun lab =>
    let (result, platform) := Bench.obey c lab.world.platform
    immediate result { lab with world := { lab.world with platform } }
  | .storeCreate dc pool name sizeMb =>
    under ctx (do return .outcome (← setup.store.createOrGet dc pool name sizeMb))
  | .storeResolve id => under ctx do
    let (site, disk) ← VolumeStore.resolve id
    return .owned site disk
  | .storeDelete dc pool id => under ctx (do VolumeStore.delete dc pool id; return .nothing)
  | .resolvePlacement placement =>
    under ctx (do return .site (← Placement.resolve setup.config.labels placement))
  | .allDisks => under ctx (do return .located (← Listing.allDisks))
  | .attach dc node disk => under ctx (withNode dc node disk fun node disk => do
      return .text (← Attachment.attach node disk Attachment.defaultController))
  | .detach dc node disk => under ctx (withNode dc node disk fun node disk => do
      Attachment.detach node disk
      return .nothing)
  | .invalid error => immediate (.error error)

end Step

namespace Scenario

variable {σ : Type} [Bench σ]

/-- The bound on the rounds of one step, beyond any scenario in use. -/
def rounds : Nat := 10000000

/-- The task of a step that is due after its delay. The context is looked up when the step begins. -/
def task (setup : Setup) (w : World σ) (s : TimedStep (Bench.Command σ)) : Task σ StepResult :=
  .scheduled (w.after s.delay) fun lab => s.step.begin setup (lab.context s.context) lab

/-- What one step, or several side by side, left behind: a result for each that ended, the events, and
the calls, in the order they came. -/
structure Trace where
  results : List (Option StepResult)
  events : List Event
  calls : List Call

/-- Carries out steps side by side. -/
def runSteps (setup : Setup) (steps : List (TimedStep (Bench.Command σ))) (lab : Lab σ) :
    Trace × Lab σ :=
  let lab := { lab with world := { lab.world with log := [], calls := [] } }
  let (tasks, lab) := lab.run rounds (steps.map (task setup lab.world))
  (⟨tasks.map Task.result?, lab.world.log.reverse, lab.world.calls.reverse⟩, lab)

/-- Carries out groups of steps one after the other. -/
def run (setup : Setup) : List (List (TimedStep (Bench.Command σ))) → Lab σ → List Trace
  | [], _ => []
  | steps :: rest, lab =>
    let (trace, lab) := runSteps setup steps lab
    trace :: run setup rest lab

/-- The lab of a platform on which nothing has happened yet. -/
def start (platform : σ) : Lab σ :=
  { world := { platform } }

end Scenario

end VolumeController

import SlideConverter.Conversion.Report
import SlideConverter.Conversion.Surroundings

/-!
# One job

The record that is kept of a job, and its moves: starting a tool, one step forward,
and giving up. A step either leaves the job where it is, because its tool is still
at work, or takes it to the next state, or ends in a fault; the caller decides what
a fault means.
-/

namespace SlideConverter

structure RunningTool where
  process : ToolProcess
  program : String
  started : Duration

/-- How long the tool has been at work when the clock shows `now`. -/
def RunningTool.elapsedMs (tool : RunningTool) (now : Duration) : UInt64 :=
  UInt64.ofNat (Duration.milliseconds ⟨now.nanoseconds - tool.started.nanoseconds⟩)

structure Job where
  handle : JobHandle
  source : Path
  workDir : Path
  state : JobState
  running : Option RunningTool
  /-- The page-description file, from when its place is known until it is removed. -/
  intermediate : Option Path
  skippedIntermediate : Bool
  stages : List StageReport

/-- Change the last element of a list, if there is one. -/
def updateLast {α : Type} (f : α → α) : List α → List α
  | [] => []
  | [a] => [f a]
  | a :: b :: rest => a :: updateLast f (b :: rest)

namespace Job

/-- Go to `next`; jobs are only ever asked to move forward, and anything else is noted. -/
def advance (job : Job) (next : JobState) : Act Job := do
  if next.rank ≤ job.state.rank then
    warn (.illegalTransition job.state next)
  return { job with state := next }

/-- What is reported of a tool that has just been started. -/
def openingReport (invocation : Invocation) (process : ToolProcess) : StageReport :=
  { stage := invocation.stage, command := invocation.commandLine, pid := process.pid,
    exitCode := none, elapsedMs := 0, killed := false }

/-- The tool has been started: hold on to it and begin its report. -/
def hold (job : Job) (invocation : Invocation) (process : ToolProcess) (started : Duration) : Job :=
  { job with
    running := some { process, program := invocation.program, started }
    stages := job.stages ++ [openingReport invocation process] }

/-- Start a tool and go to `next`. -/
def launch (job : Job) (invocation : Invocation) (next : JobState) : Act (Job × Option Fault) := do
  match ← ask (.launch invocation) with
  | .error cause => return (job, some (.launchRefused cause))
  | .ok process =>
    let started ← ask .clock
    return (← (job.hold invocation process started).advance next, none)

/-- The least of the entries that are page-description files. -/
def leastIntermediate (options : PipelineOptions) (entries : List Path) : Option Path :=
  ((entries.filter options.isIntermediate).mergeSort Path.le).head?

/-- What follows once the office tool has done its work. -/
def rasterize (config : Config) (job : Job) : Act (Job × Option Fault) := do
  match ← ask (.listDir job.workDir) with
  | .error cause => return (job, some (.listingFailed cause))
  | .ok entries =>
    match leastIntermediate config.pipeline entries with
    | none =>
      return (job, some (.intermediateMissing config.pipeline.intermediateExtension job.workDir))
    | some found =>
      let job := { job with intermediate := some found }
      job.launch (.raster config found job.workDir) .convertingToImages

/-- What follows once the raster tool has done its work. -/
def finish (config : Config) (job : Job) : Act (Job × Option Fault) := do
  if config.pipeline.keepIntermediate then
    return (← job.advance .finished, none)
  else
    match job.intermediate with
    | none => return (← job.advance .finished, none)
    | some path =>
      let job := { job with intermediate := none }
      match ← ask (.removeFile path) with
      | .error cause => return (job, some (.removalFailed cause))
      | .ok _ => return (← job.advance .finished, none)

/-- The tool has ended: let go of it and note how. -/
def release (job : Job) (exit : ToolExit) (elapsedMs : UInt64) : Job :=
  { job with
    running := none
    stages := updateLast (fun r => { r with exitCode := exit.code, elapsedMs }) job.stages }

def afterExit (config : Config) (job : Job) (program : String) (exit : ToolExit) :
    Act (Job × Option Fault) :=
  if exit.success then
    match job.state with
    | .convertingToIntermediate => job.rasterize config
    | .convertingToImages => job.finish config
    | _ => return (job, none)
  else return (job, some (.badExit program exit job.source))

def step (config : Config) (job : Job) : Act (Job × Option Fault) := do
  if job.state = .init then
    match job.intermediate with
    | some staged => job.launch (.raster config staged job.workDir) .convertingToImages
    | none => job.launch (.office config job.source job.workDir) .convertingToIntermediate
  else
    match job.running with
    | none => return (job, some (.noTool job.state))
    | some tool =>
      match ← ask (.tryWait tool.process) with
      | .error cause => return (job, some (.waitRefused cause))
      | .ok none => return (job, none)
      | .ok (some exit) =>
        let now ← ask .clock
        (job.release exit (tool.elapsedMs now)).afterExit config tool.program exit

/-- Remove a working directory if it is there; a removal that fails is only noted. -/
def removeWorkDir (workDir : Path) : Act Unit := do
  if ← ask (.pathExists workDir) then
    match ← ask (.removeDirAll workDir) with
    | .error cause => warn (.cleanupFailed workDir cause)
    | .ok _ => return ()

/-- The tool has been killed: let go of it and note that. -/
def dismiss (job : Job) (elapsedMs : UInt64) : Job :=
  { job with
    running := none
    stages := updateLast (fun r => { r with killed := true, elapsedMs }) job.stages }

/-- End the tool at work, if there is one; a kill that fails is only noted. -/
def killTool (job : Job) : Act Job := do
  match job.running with
  | none => return job
  | some tool =>
    match ← ask (.kill tool.process) with
    | .error cause => warn (.killFailed job.handle tool.program cause)
    | .ok _ => pure ()
    return job.dismiss (tool.elapsedMs (← ask .clock))

/-- Give the job up: end its tool, discard its working directory, and go to `last`. -/
def abort (job : Job) (last : JobState) : Act Job := do
  let job ← job.killTool
  removeWorkDir job.workDir
  job.advance last

def report (job : Job) : JobReport where
  jobId := job.handle.id
  source := job.source.display
  workDir := job.workDir.display
  skippedIntermediate := job.skippedIntermediate
  state := job.state.name
  failure :=
    match job.state with
    | .failed f => some f.describe
    | _ => none
  stages := job.stages

end Job

end SlideConverter

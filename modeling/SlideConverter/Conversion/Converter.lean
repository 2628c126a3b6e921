import SlideConverter.Conversion.Job
import SlideConverter.Slide.Collection
import SlideConverter.Slide.Expression

/-!
# The converter

A converter turns one document at a time into numbered slides. It never waits:
`poll` looks once and advances the job by at most one step. A job that has ended
stays answerable until the next one is accepted. `close` is what happens to a job
that is still at work when the converter goes away.
-/

namespace SlideConverter

structure Converter where
  config : Config
  compiler : PatternCompiler := .standard
  nextId : UInt64 := 1
  job : Option Job := none

namespace Converter

/-- The job that `handle` stands for, if it is the current one. -/
def find? (c : Converter) (handle : JobHandle) : Option Job :=
  c.job.filter (·.handle = handle)

/-- The current job, if it has not ended. -/
def activeJob? (c : Converter) : Option Job :=
  c.job.filter (!·.state.isTerminal)

/-- Copies a source that is a page-description file into the working directory. -/
def stageSource (config : Config) (source workDir : Path) (preexisting : Bool) :
    Act (Except ConversionError (Option Path)) := do
  if config.pipeline.isIntermediate source then
    match source.fileName with
    | none => return .error (.invalidInput (.sourceWithoutName source))
    | some name =>
      let staged := workDir.join ⟨name⟩
      match ← ask (.copy source staged) with
      | .ok _ => return .ok (some staged)
      | .error cause =>
        if !preexisting then
          Job.removeWorkDir workDir
        return .error (.filesystem cause)
  else return .ok none

/-- An existing working directory has to be empty and writable; a missing one is made. -/
def prepareWorkDir (workDir : Path) : Act (Except ConversionError Bool) := do
  let make (preexisting : Bool) : Act (Except ConversionError Bool) := do
    match ← ask (.createDirAll workDir) with
    | .error cause => return .error (.filesystem cause)
    | .ok _ => return .ok preexisting
  if ← ask (.pathExists workDir) then
    match ← ask (.isEmptyDir workDir) with
    | .error cause => return .error (.invalidInput (.unusable cause))
    | .ok false => return .error (.invalidInput (.workDirNotEmpty workDir))
    | .ok true =>
      match ← ask (.checkWritable workDir) with
      | .error cause => return .error (.invalidInput (.unusable cause))
      | .ok _ => make true
  else make false

/-- All that comes before a job exists: the source is checked, the working directory made
ready, and the staged copy, if there is one, put into it. -/
def prepare (config : Config) (source workDir : Path) :
    Act (Except ConversionError (Option Path)) := do
  if !config.pipeline.accepts source then
    return .error (.invalidInput (.unsupportedType source))
  else
    match ← ask (.checkReadable source) with
    | .error cause => return .error (.invalidInput (.unusable cause))
    | .ok _ =>
      match ← prepareWorkDir workDir with
      | .error e => return .error e
      | .ok preexisting => stageSource config source workDir preexisting

def register (c : Converter) (source workDir : Path) (staged : Option Path) :
    JobHandle × Converter :=
  let handle : JobHandle := ⟨c.nextId⟩
  let job : Job :=
    { handle, source, workDir, state := .init, running := none, intermediate := staged,
      skippedIntermediate := staged.isSome, stages := [] }
  (handle, { c with nextId := c.nextId + 1, job := some job })

/-- Takes a new job on, unless one is at work. -/
def start (c : Converter) (source workDir : Path) :
    Act (Except ConversionError JobHandle × Converter) := do
  match c.activeJob? with
  | some active => return (.error (.usage (.jobActive active.handle active.state)), c)
  | none =>
    match ← prepare c.config source workDir with
    | .error e => return (.error e, c)
    | .ok staged =>
      let (handle, c) := c.register source workDir staged
      return (.ok handle, c)

/-- Looks at the job and advances it by at most one step. -/
def poll (c : Converter) (handle : JobHandle) :
    Act (Except ConversionError PollResult × Converter) := do
  match c.find? handle with
  | none => return (.error (.usage (.unknownJob handle)), c)
  | some job =>
    if job.state.isTerminal then return (.ok (.ofState job.state), c)
    else
      let (job, fault) ← job.step c.config
      match fault with
      | none => return (.ok (.ofState job.state), { c with job := some job })
      | some fault =>
        warn (.jobFailed job.handle fault.failure)
        let job ← job.abort (.failed fault.failure)
        return (.ok (.ofState job.state), { c with job := some job })

/-- Ends the job and discards its working directory, unless it has ended already. -/
def cancel (c : Converter) (handle : JobHandle) :
    Act (Except ConversionError Unit × Converter) := do
  match c.find? handle with
  | none => return (.error (.usage (.unknownJob handle)), c)
  | some job =>
    if job.state.isTerminal then return (.ok (), c)
    else
      let job ← job.abort .cancelled
      return (.ok (), { c with job := some job })

/-- Why frames cannot be told by their names. -/
def patternRefusal? (c : Converter) : Option ErrorChain :=
  c.compiler.refuses? (SlideCollection.framePattern c.config.pipeline)

/-- Slides in order, once the job has finished. -/
def collectSlides (c : Converter) (handle : JobHandle) :
    Act (Except ConversionError SlideCollection) := do
  match c.find? handle with
  | none => return .error (.usage (.unknownJob handle))
  | some job =>
    if job.state = .finished then
      match c.patternRefusal? with
      | some cause => return .error (.filesystem cause)
      | none =>
        match ← ask (.listDir job.workDir) with
        | .error cause => return .error (.filesystem cause)
        | .ok entries => return .ok (.ofEntries c.config.pipeline entries)
    else return .error (.usage (.notFinished job.handle job.state))

/-- Something that is known of the job without asking. -/
def inspect {α : Type} (c : Converter) (handle : JobHandle) (f : Job → α) :
    Except ConversionError α :=
  match c.find? handle with
  | none => .error (.usage (.unknownJob handle))
  | some job => .ok (f job)

def state (c : Converter) (handle : JobHandle) : Except ConversionError JobState :=
  c.inspect handle (·.state)

def workDir (c : Converter) (handle : JobHandle) : Except ConversionError Path :=
  c.inspect handle (·.workDir)

def report (c : Converter) (handle : JobHandle) : Except ConversionError JobReport :=
  c.inspect handle (·.report)

/-- A job still at work when the converter goes away is cancelled. -/
def close (c : Converter) : Act Converter := do
  match c.activeJob? with
  | none => return c
  | some job =>
    warn (.droppedWhile job.handle job.state)
    let job ← job.abort .cancelled
    return { c with job := some job }

end Converter

end SlideConverter

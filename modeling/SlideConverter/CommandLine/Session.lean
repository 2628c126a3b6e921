import SlideConverter.CommandLine.Arguments
import SlideConverter.CommandLine.LogFilter
import SlideConverter.Config.Load
import SlideConverter.Conversion.Completion
import SlideConverter.Conversion.Form
import SlideConverter.Conversion.JobDirectory
import SlideConverter.Conversion.Route
import SlideConverter.Data.Sorted
import SlideConverter.Json.Printer
import SlideConverter.Slide.Form
import SlideConverter.Text.Timestamp
import SlideConverter.Tool.Diagnosis
import SlideConverter.Toml.Printer

/-!
# Sessions

One call of the command line, from its arguments to its exit code. A session asks what
a conversion asks and a few questions more; its notes are what it prints and what it
logs. Whatever goes wrong before the log is set up is not logged.
-/

namespace SlideConverter.CommandLine

open Text

/-- What is settled before a session begins. -/
structure Setting where
  /-- How often a session looks at a job at most. -/
  ticks : Nat := 1000000000000
  /-- The directives for the log that stand in the environment. -/
  directives : Option Bytes := none
  compiler : PatternCompiler := .standard

/-- A converter that has not been asked for anything. -/
def Setting.converter (setting : Setting) (config : Config) : Converter :=
  { config, compiler := setting.compiler }

inductive Inquiry where
  | conversion (question : Question)
  /-- Answered by `none` if there is nothing to read. -/
  | readFile (path : Path)
  | isFile (path : Path)
  /-- Makes an empty file, in place of one that is there already. -/
  | createFile (path : Path)
  | canonicalize (path : Path)
  /-- Runs a program to its end. -/
  | probe (program argument : String)
  /-- Nanoseconds since the beginning of 1970. -/
  | wallClock
deriving DecidableEq

@[reducible] def Inquiry.Answer : Inquiry → Type
  | .conversion q => q.Answer
  | .readFile _ => Option Bytes
  | .isFile _ => Bool
  | .createFile _ => Reply Unit
  | .canonicalize _ => Reply Path
  | .probe _ _ => Except SystemError Probe
  | .wallClock => Nat

inductive Utterance where
  | printed (text : String)
  | logged (record : LogRecord)
deriving DecidableEq

abbrev Session (α : Type) := Dialogue Inquiry Inquiry.Answer Utterance α

namespace Session

def inquire (i : Inquiry) : Session i.Answer := .question i

def print (text : String) : Session Unit := .remark (.printed text)

/-- What the filter lets through. -/
def record? (filter : LogFilter) (r : LogRecord) : Option Utterance :=
  if filter.lets r then some (.logged r) else none

def log (filter : LogFilter) (r : LogRecord) : Session Unit :=
  match record? filter r with
  | some u => .remark u
  | none => return ()

def warningRecord (w : Warning) : LogRecord :=
  { level := .warn, target := "slidepush::pipeline", message := w.message }

/-- A part of a conversion, with its warnings in the log. -/
def during {α : Type} (filter : LogFilter) (act : Act α) : Session α :=
  act.embed .conversion (fun _ a => a) fun w => record? filter (warningRecord w)

end Session

open Session

/-- Why a command does not succeed. -/
inductive Failing where
  | urlInput (input : Path)
  | missingInput (input : Path)
  | refused (cause : ErrorChain)
  | conversion (error : ConversionError)
  | unprocessable (input : Path) (failure : Failure)
  | cancelled (input : Path) (seconds : UInt64)
  | incomplete
  /-- The job has been looked at as often as it may be. -/
  | unended
  /-- There is no JSON text for a path that is no text. -/
  | unprintable
deriving DecidableEq

namespace Failing

/-- For the log, if the program is still able to log. -/
def message? : Failing → Option String
  | .urlInput input => some ("URL inputs are disabled: " ++ input.display)
  | .missingInput input => some ("input does not exist: " ++ input.display)
  | .refused cause => some cause.text
  | .conversion error => some error.message
  | .unprocessable input failure =>
    some ("unable to process " ++ input.display ++ ": " ++ failure.reason)
  | .cancelled input seconds =>
    some ("conversion of " ++ input.display ++ " cancelled after "
      ++ toString seconds.toNat ++ "s")
  | .incomplete | .unended => some "conversion stopped before completing"
  | .unprintable => none

def exitCode : Failing → UInt8
  | .unprintable => 101
  | _ => 1

end Failing

abbrev Attempt := Session (Except Failing Unit)

def printTree (t : Tree) : Attempt :=
  match Json.printPretty? t with
  | none => return .error .unprintable
  | some text => do
    print (text ++ "\n")
    return .ok ()

/-! ## Commands -/

def probeTools : List (String × String) → Session (List ToolDiagnosis)
  | [] => return []
  | (program, argument) :: rest => do
    let found ← inquire (.probe program argument)
    return .ofProbe program found :: (← probeTools rest)

def unusable (d : ToolDiagnosis) : LogRecord where
  level := .warn
  target := "slidepush::cli"
  message := d.program ++ " is not usable: " ++ d.error.getD "unknown"

def logUnusable (filter : LogFilter) : List ToolDiagnosis → Session Unit
  | [] => return ()
  | d :: rest => do
    if !d.available then log filter (unusable d)
    logUnusable filter rest

def doctor (config : Config) (filter : LogFilter) : Attempt := do
  let found ← probeTools (ToolDiagnosis.tools config)
  logUnusable filter found
  printTree (.list (found.map ToolDiagnosis.tree))

def classification (config : Config) (input : Path) (exist : Bool) : Tree :=
  .record [("accepted", .bool (config.pipeline.accepts input)), ("exists", .bool exist),
    ("input", input.tree), ("route", .string (config.pipeline.route input).name)]

def classify (config : Config) (input : Path) : Attempt := do
  printTree (classification config input (← inquire (.isFile input)))

/-- What keeps an input from being looked at more closely. -/
def checkInput (config : Config) (input : Path) : Attempt := do
  if config.security.rejectUrlInputs && looksLikeUrl input.display then
    return .error (.urlInput input)
  else if ← inquire (.conversion (.pathExists input)) then return .ok ()
  else return .error (.missingInput input)

def fingerprint (config : Config) : String := Digest.sha256 (Utf8.encode (Toml.normalized config))

/-- The directory that the caller names, or a new name below the configured one, which is
made if it is missing. -/
def chooseWorkDir (config : Config) (input : Path) (named : Option Path) :
    Session (Except Failing Path) := do
  match named with
  | some path => return .ok path
  | none =>
    let root := Path.ofString config.paths.workDir
    match ← inquire (.conversion (.createDirAll root)) with
    | .error cause => return .error (.refused cause)
    | .ok _ =>
      match ← inquire (.canonicalize input) with
      | .error cause => return .error (.refused cause)
      | .ok source =>
        let now ← inquire .wallClock
        let name := jobDirectoryName (fingerprint config) source now
        return .ok (root.join (.ofString name))

def summary (started finished : Nat) (workDir : Path) (slides : SlideCollection)
    (report : JobReport) : Tree :=
  (Tree.record [("status", .string "ok"), ("started", .string (timestamp started)),
    ("finished", .string (timestamp finished)), ("work_dir", workDir.tree),
    ("slides", .list (slides.slides.map Slide.tree)), ("report", report.tree)]).sorted

/-- What is said of a job that has finished. -/
def presentFinished (config : Config) (filter : LogFilter) (c : Converter) (handle : JobHandle)
    (workDir : Path) (started : Nat) (report : JobReport) : Attempt := do
  match ← during filter (c.collectSlides handle) with
  | .error e => return .error (.conversion e)
  | .ok slides =>
    if config.global.printSummary then
      printTree (summary started (← inquire .wallClock) workDir slides report)
    else return .ok ()

/-- What is said of a job that has failed. -/
def presentFailed (config : Config) (input : Path) (report : JobReport) (failure : Failure) :
    Attempt := do
  let summarize : Attempt :=
    if config.global.printSummary then printTree report.tree else return .ok ()
  match ← summarize with
  | .error e => return .error e
  | .ok _ => return .error (.unprocessable input failure)

def present (config : Config) (filter : LogFilter) (c : Converter) (handle : JobHandle)
    (input workDir : Path) (started : Nat) (result : PollResult) : Attempt := do
  match c.report handle with
  | .error e => return .error (.conversion e)
  | .ok report =>
    match result with
    | .finished => presentFinished config filter c handle workDir started report
    | .failed failure => presentFailed config input report failure
    | .cancelled => return .error (.cancelled input config.limits.jobTimeoutSeconds)
    | .inProgress _ => return .error .incomplete

def deadline (config : Config) : Option Duration :=
  if config.limits.jobTimeoutSeconds = 0 then none
  else some (.ofSeconds config.limits.jobTimeoutSeconds.toNat)

def pollInterval (config : Config) : Duration :=
  .ofMilliseconds (max config.pipeline.pollIntervalMs.toNat 1)

/-- Looks at the job up to `ticks` times, and says what has become of it. -/
def runJob (ticks : Nat) (config : Config) (filter : LogFilter) (c : Converter)
    (handle : JobHandle) (input workDir : Path) (started : Nat) :
    Session (Except Failing Unit × Converter) := do
  match ← during filter
      (c.runToCompletion handle (pollInterval config) (deadline config) ticks) with
  | (none, c) => return (.error .unended, c)
  | (some (.error e), c) => return (.error (.conversion e), c)
  | (some (.ok result), c) =>
    return (← present config filter c handle input workDir started result, c)

/-- A job that has been taken on, and when. -/
structure Accepted where
  workDir : Path
  started : Nat
  handle : JobHandle
  converter : Converter

/-- All that comes before a job is looked at. -/
def accept (setting : Setting) (config : Config) (filter : LogFilter) (input : Path)
    (named : Option Path) : Session (Except Failing Accepted) := do
  match ← checkInput config input with
  | .error e => return .error e
  | .ok _ =>
    match ← chooseWorkDir config input named with
    | .error e => return .error e
    | .ok workDir =>
      let started ← inquire .wallClock
      match ← during filter ((setting.converter config).start input workDir) with
      | (.error e, _) => return .error (.conversion e)
      | (.ok handle, converter) => return .ok { workDir, started, handle, converter }

def convert (setting : Setting) (config : Config) (filter : LogFilter) (input : Path)
    (named : Option Path) : Attempt := do
  match ← accept setting config filter input named with
  | .error e => return .error e
  | .ok a =>
    let (result, c) ← runJob setting.ticks config filter a.converter a.handle input a.workDir
      a.started
    let _ ← during filter c.close
    return result

def perform (setting : Setting) (config : Config) (filter : LogFilter) : Command → Attempt
  | .doctor => doctor config filter
  | .classify input => classify config input
  | .convert input workDir => convert setting config filter input workDir

/-! ## Before and after a command -/

def defaultConfigPath : Path := .ofString "slidepush.toml"

/-- The configuration file, if there is one. -/
def configPath (named : Option Path) : Session (Option Path) := do
  match named with
  | some path => return some path
  | none =>
    if ← inquire (.conversion (.pathExists defaultConfigPath)) then return some defaultConfigPath
    else return none

def loadConfig (named : Option Path) : Session (Except ConfigFault Config) := do
  match ← configPath named with
  | none => return .ok {}
  | some path => return Config.load path (← inquire (.readFile path))

/-- Where the log goes besides standard error. -/
def logPath (config : Config) : Option Path :=
  if !config.logging.writeToFile then none
  else if config.logging.filePath ≠ "" then some (.ofString config.logging.filePath)
  else some ((Path.ofString config.paths.workDir).join (.ofString "slidepush.log"))

def openLog (config : Config) : Session (Reply Unit) := do
  match logPath config with
  | none => return .ok ()
  | some path =>
    let directory := path.parent.getD (.ofString ".")
    match ← inquire (.conversion (.createDirAll directory)) with
    | .error cause => return .error cause
    | .ok _ => inquire (.createFile path)

def failureRecord (message : String) : LogRecord :=
  { level := .error, target := "slidepush", message }

def logFailure (filter : LogFilter) (e : Failing) : Session Unit :=
  match e.message? with
  | some message => log filter (failureRecord message)
  | none => return ()

/-- The exit code of a command; a failure is logged. -/
def conclude (filter : LogFilter) : Except Failing Unit → Session UInt8
  | .ok _ => return 0
  | .error e => do
    logFailure filter e
    return e.exitCode

/-- The directives of the environment count, if all of them make sense; then those of the
arguments, and then those of the configuration, as far as they make sense. -/
def Setting.filter (setting : Setting) (a : Arguments) (config : Config) : LogFilter :=
  ((setting.directives.bind Utf8.decode?).bind LogFilter.ofString?).getD
    (.ofString (a.logLevel.getD config.logging.level))

def runArguments (setting : Setting) (a : Arguments) : Session UInt8 := do
  match ← loadConfig a.config with
  | .error _ => return 1
  | .ok config =>
    match ← openLog config with
    | .error _ => return 1
    | .ok _ =>
      let filter := setting.filter a config
      conclude filter (← perform setting config filter a.command)

def helpLines : List String :=
  ["Convert presentations and documents into numbered slide images", "",
    "Usage: slidepush [--config <PATH>] [--log-level <LEVEL>] <COMMAND>", "",
    "Commands:",
    "  doctor                                     check the office and raster tools",
    "  classify --input <PATH>                    say whether a document is accepted",
    "  convert --input <PATH> [--work-dir <PATH>] convert a document",
    "  help [COMMAND]                             print this text"]

def helpText : String := String.join (helpLines.map (· ++ "\n"))

/-- A whole session, with its exit code. -/
def session (setting : Setting) (arguments : List Bytes) : Session UInt8 := do
  match read arguments with
  | .refused => return 2
  | .help =>
    print helpText
    return 0
  | .run a => runArguments setting a

end SlideConverter.CommandLine

import SlideConverter.Conversion.Duration
import SlideConverter.Conversion.State

/-!
# What can go wrong

Errors are causes; their wording is in one place each. A call of the converter can
be refused (`ConversionError`), a job that was accepted can fail (`Fault`), and some
mishaps are only worth a `Warning`. Whatever the surroundings answer with is an
`ErrorChain`, outermost message first.
-/

namespace SlideConverter

structure ErrorChain where
  messages : List String
deriving DecidableEq

namespace ErrorChain

def text (c : ErrorChain) : String := ": ".intercalate c.messages

def context (message : String) (c : ErrorChain) : ErrorChain := ⟨message :: c.messages⟩

end ErrorChain

structure JobHandle where
  id : UInt64
deriving DecidableEq

def JobHandle.display (h : JobHandle) : String := "job-" ++ toString h.id.toNat

/-- Why a source and a working directory are no job. -/
inductive InputFault where
  | unsupportedType (source : Path)
  | unusable (cause : ErrorChain)
  | workDirNotEmpty (workDir : Path)
  | sourceWithoutName (source : Path)
deriving DecidableEq

def InputFault.message : InputFault → String
  | .unsupportedType source => "unsupported file type: " ++ source.display
  | .unusable cause => cause.text
  | .workDirNotEmpty workDir => "working directory is not empty: " ++ workDir.display
  | .sourceWithoutName source => "source has no file name: " ++ source.display

/-- A call that makes no sense now. -/
inductive Misuse where
  | jobActive (handle : JobHandle) (state : JobState)
  | unknownJob (handle : JobHandle)
  | notFinished (handle : JobHandle) (state : JobState)
deriving DecidableEq

def Misuse.message : Misuse → String
  | .jobActive handle state => handle.display ++ " is still " ++ state.name
  | .unknownJob handle => "unknown " ++ handle.display
  | .notFinished handle state =>
    "slides requested while " ++ handle.display ++ " is " ++ state.name

inductive ConversionError where
  | invalidInput (fault : InputFault)
  | filesystem (cause : ErrorChain)
  | usage (misuse : Misuse)
deriving DecidableEq

def ConversionError.message : ConversionError → String
  | .invalidInput fault => "invalid input: " ++ fault.message
  | .filesystem cause => "filesystem error: " ++ cause.text
  | .usage misuse => "usage error: " ++ misuse.message

/-- Why an accepted job fails. -/
inductive Fault where
  | launchRefused (cause : ErrorChain)
  | waitRefused (cause : ErrorChain)
  | noTool (state : JobState)
  | badExit (program : String) (exit : ToolExit) (source : Path)
  | intermediateMissing (extension : String) (workDir : Path)
  | listingFailed (cause : ErrorChain)
  | removalFailed (cause : ErrorChain)

namespace Fault

def exitText (exit : ToolExit) : String :=
  match exit.code with
  | some code => "code " ++ toString code.toInt
  | none => "signal"

def kind : Fault → FailureKind
  | .listingFailed _ | .removalFailed _ => .filesystem
  | _ => .toolFailure

def reason : Fault → String
  | .launchRefused cause | .waitRefused cause => cause.text
  | .listingFailed cause | .removalFailed cause => cause.text
  | .noTool state => "no tool running while " ++ state.name
  | .badExit program exit source =>
    program ++ " exited with " ++ exitText exit ++ ": error processing " ++ source.display
  | .intermediateMissing extension workDir =>
    extension ++ " file not produced in " ++ workDir.display

def failure (f : Fault) : Failure := ⟨f.kind, f.reason⟩

end Fault

/-- Mishaps that change no outcome. -/
inductive Warning where
  | jobFailed (handle : JobHandle) (failure : Failure)
  | killFailed (handle : JobHandle) (program : String) (cause : ErrorChain)
  | cleanupFailed (workDir : Path) (cause : ErrorChain)
  | droppedWhile (handle : JobHandle) (state : JobState)
  | deadlineExceeded (handle : JobHandle) (deadline : Duration)
  /-- A move that is no move forward. -/
  | illegalTransition (before after : JobState)

def Warning.message : Warning → String
  | .jobFailed handle failure => handle.display ++ " failed: " ++ failure.describe
  | .killFailed handle program cause =>
    handle.display ++ " kill " ++ program ++ " failed: " ++ cause.text
  | .cleanupFailed workDir cause => "cleanup of " ++ workDir.display ++ " failed: " ++ cause.text
  | .droppedWhile handle state =>
    handle.display ++ " dropped while " ++ state.name ++ "; cancelling"
  | .deadlineExceeded handle deadline =>
    handle.display ++ " exceeded deadline Some(" ++ deadline.describe ++ "); cancelling"
  | .illegalTransition before after => "illegal transition " ++ before.name ++ " -> " ++ after.name

end SlideConverter

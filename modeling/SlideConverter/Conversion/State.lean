import SlideConverter.Tool.Invocation

/-!
# Where a job stands

The states of a job, what one look at it tells the caller, and why it failed.
States that are not terminal only move forward; `finished`, `cancelled` and
`failed` are never left.
-/

namespace SlideConverter

inductive FailureKind where
  /-- A tool could not be started, ended badly or left nothing. -/
  | toolFailure
  /-- Reading or writing the working directory failed. -/
  | filesystem
deriving DecidableEq

def FailureKind.name : FailureKind → String
  | .toolFailure => "ToolFailure"
  | .filesystem => "Filesystem"

structure Failure where
  kind : FailureKind
  reason : String
deriving DecidableEq

def Failure.describe (f : Failure) : String := f.kind.name ++ ": " ++ f.reason

inductive JobState where
  | init
  | convertingToIntermediate
  | convertingToImages
  | finished
  | cancelled
  | failed (failure : Failure)
deriving DecidableEq

namespace JobState

def isTerminal : JobState → Bool
  | .finished | .cancelled | .failed _ => true
  | _ => false

def rank : JobState → Nat
  | .init => 0
  | .convertingToIntermediate => 1
  | .convertingToImages => 2
  | .finished | .cancelled | .failed _ => 3

def stage : JobState → Option Stage
  | .convertingToIntermediate => some .intermediate
  | .convertingToImages => some .images
  | _ => none

def name : JobState → String
  | .init => "init"
  | .convertingToIntermediate => "converting_to_intermediate"
  | .convertingToImages => "converting_to_images"
  | .finished => "finished"
  | .cancelled => "cancelled"
  | .failed _ => "failed"

end JobState

/-- What one look at a job says. -/
inductive PollResult where
  /-- Still at work; no stage before the first tool has been started. -/
  | inProgress (stage : Option Stage)
  | finished
  | cancelled
  | failed (failure : Failure)
deriving DecidableEq

namespace PollResult

def isTerminal : PollResult → Bool
  | .inProgress _ => false
  | _ => true

def ofState : JobState → PollResult
  | .finished => .finished
  | .cancelled => .cancelled
  | .failed f => .failed f
  | state => .inProgress state.stage

end PollResult

end SlideConverter

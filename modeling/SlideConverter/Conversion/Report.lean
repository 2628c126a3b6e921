import SlideConverter.Conversion.State

/-!
# What is reported of a job
-/

namespace SlideConverter

/-- One tool that was started for a job. -/
structure StageReport where
  stage : Stage
  command : String
  pid : UInt32
  exitCode : Option Int32
  elapsedMs : UInt64
  killed : Bool
deriving DecidableEq

structure JobReport where
  jobId : UInt64
  source : String
  workDir : String
  skippedIntermediate : Bool
  state : String
  failure : Option String
  stages : List StageReport
deriving DecidableEq

end SlideConverter

import SlideConverter.Conversion.Report
import SlideConverter.Tool.Form

/-!
# States, results and reports as trees
-/

namespace SlideConverter

namespace FailureKind

def tree (k : FailureKind) : Tree := .string k.name

def ofTree? (t : Tree) : Option FailureKind :=
  match t.unit? with
  | some "ToolFailure" => some .toolFailure
  | some "Filesystem" => some .filesystem
  | _ => none

end FailureKind

namespace Failure

def schema : Schema Failure where
  make := mk
  columns :=
    .field "kind" (·.kind) (.required FailureKind.tree FailureKind.ofTree?) <|
    .field "reason" (·.reason) .string .done

def tree (f : Failure) : Tree := schema.tree f

def ofTree? (t : Tree) : Option Failure := schema.ofTree? false t

end Failure

namespace JobState

def tree : JobState → Tree
  | .init => .string "Init"
  | .convertingToIntermediate => .string "ConvertingToIntermediate"
  | .convertingToImages => .string "ConvertingToImages"
  | .finished => .string "Finished"
  | .cancelled => .string "Cancelled"
  | .failed f => .record [("Failed", f.tree)]

def ofTree? (t : Tree) : Option JobState :=
  match t.variant? with
  | some ("Failed", some payload) => (Failure.ofTree? payload).map .failed
  | _ =>
    match t.unit? with
    | some "Init" => some .init
    | some "ConvertingToIntermediate" => some .convertingToIntermediate
    | some "ConvertingToImages" => some .convertingToImages
    | some "Finished" => some .finished
    | some "Cancelled" => some .cancelled
    | _ => none

end JobState

namespace PollResult

def tree : PollResult → Tree
  | .inProgress stage => .record [("InProgress", Tree.option Stage.tree stage)]
  | .finished => .string "Finished"
  | .cancelled => .string "Cancelled"
  | .failed f => .record [("Failed", f.tree)]

def ofTree? (t : Tree) : Option PollResult :=
  match t.variant? with
  | some ("Failed", some payload) => (Failure.ofTree? payload).map .failed
  | some ("InProgress", some payload) => (payload.nullable? Stage.ofTree?).map .inProgress
  | _ =>
    match t.unit? with
    | some "Finished" => some .finished
    | some "Cancelled" => some .cancelled
    | _ => none

end PollResult

namespace StageReport

def schema : Schema StageReport where
  make := mk
  columns :=
    .field "stage" (·.stage) (.required Stage.tree Stage.ofTree?) <|
    .field "command" (·.command) .string <|
    .field "pid" (·.pid) .uint32 <|
    .field "exit_code" (·.exitCode) (ToolExit.codeKind .defaulted) <|
    .field "elapsed_ms" (·.elapsedMs) .uint64 <|
    .field "killed" (·.killed) .bool .done

def tree (r : StageReport) : Tree := schema.tree r

def ofTree? (t : Tree) : Option StageReport := schema.ofTree? false t

end StageReport

namespace JobReport

def schema : Schema JobReport where
  make := mk
  columns :=
    .field "job_id" (·.jobId) .uint64 <|
    .field "source" (·.source) .string <|
    .field "work_dir" (·.workDir) .string <|
    .field "skipped_intermediate" (·.skippedIntermediate) .bool <|
    .field "state" (·.state) .string <|
    .field "failure" (·.failure) .optionalString <|
    .field "stages" (·.stages) (.list StageReport.tree StageReport.ofTree?) .done

def tree (r : JobReport) : Tree := schema.tree r

def ofTree? (t : Tree) : Option JobReport := schema.ofTree? false t

end JobReport

end SlideConverter

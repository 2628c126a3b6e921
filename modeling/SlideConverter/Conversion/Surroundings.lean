import SlideConverter.Conversion.Error
import SlideConverter.Dialogue

/-!
# What a conversion asks

Everything a conversion needs of the disk, of the tools and of the clock is a
`Question`, and each kind of question has its kind of answer. An `Act` is a dialogue
of such questions with warnings for notes.
-/

namespace SlideConverter

/-- A tool at work; `serial` tells it from every other one of the same launcher. -/
structure ToolProcess where
  serial : Nat
  pid : UInt32
deriving DecidableEq

inductive Question where
  | pathExists (path : Path)
  /-- Fails unless `path` is a regular file that can be opened for reading. -/
  | checkReadable (path : Path)
  | isEmptyDir (path : Path)
  /-- Fails unless a file can be made inside the directory `path`. -/
  | checkWritable (path : Path)
  /-- The entries of `path` in any order. -/
  | listDir (path : Path)
  | createDirAll (path : Path)
  | copy (source target : Path)
  | removeFile (path : Path)
  | removeDirAll (path : Path)
  | launch (invocation : Invocation)
  /-- Answered by `none` while the tool is at work. -/
  | tryWait (process : ToolProcess)
  | kill (process : ToolProcess)
  /-- The time since some moment in the past. -/
  | clock
  | sleep (duration : Duration)
deriving DecidableEq

/-- Whether the disk is asked, and not a tool or the clock. -/
def Question.ofDisk : Question → Bool
  | .launch _ | .tryWait _ | .kill _ | .clock | .sleep _ => false
  | _ => true

abbrev Reply (α : Type) := Except ErrorChain α

@[reducible] def Question.Answer : Question → Type
  | .pathExists _ => Bool
  | .checkReadable _ => Reply Unit
  | .isEmptyDir _ => Reply Bool
  | .checkWritable _ => Reply Unit
  | .listDir _ => Reply (List Path)
  | .createDirAll _ => Reply Unit
  | .copy _ _ => Reply Unit
  | .removeFile _ => Reply Unit
  | .removeDirAll _ => Reply Unit
  | .launch _ => Reply ToolProcess
  | .tryWait _ => Reply (Option ToolExit)
  | .kill _ => Reply Unit
  | .clock => Duration
  | .sleep _ => Unit

abbrev Act (α : Type) := Dialogue Question Question.Answer Warning α

abbrev ActEvent := Event Question Question.Answer Warning

abbrev Surroundings (σ : Type) := Respondent Question Question.Answer σ

def ask (question : Question) : Act question.Answer := .question question

def warn (warning : Warning) : Act Unit := .remark warning

end SlideConverter

import SlideConverter.Data.Schema
import SlideConverter.Tool.Invocation

/-!
# Tools as trees
-/

namespace SlideConverter

namespace Stage

def tree (s : Stage) : Tree := .string s.name

def ofTree? (t : Tree) : Option Stage :=
  match t.unit? with
  | some "intermediate" => some .intermediate
  | some "images" => some .images
  | _ => none

end Stage

namespace Invocation

def schema : Schema Invocation where
  make := mk
  columns :=
    .field "stage" (·.stage) (.required Stage.tree Stage.ofTree?) <|
    .field "program" (·.program) .string <|
    .field "args" (·.arguments) (.list .string Tree.string?) .done

def tree (i : Invocation) : Tree := schema.tree i

def ofTree? (t : Tree) : Option Invocation := schema.ofTree? false t

end Invocation

namespace ToolExit

/-- An exit code, which may be missing. -/
def codeKind (absence : Absence) : FieldKind (Option Int32) :=
  .nullable absence (.integer ·.toInt) Tree.int32?

def schema : Schema ToolExit where
  make := mk
  columns := .field "code" (·.code) (codeKind .optional) .done

def tree (e : ToolExit) : Tree := schema.tree e

def ofTree? (t : Tree) : Option ToolExit := schema.ofTree? false t

end ToolExit

namespace ToolDiagnosis

def schema : Schema ToolDiagnosis where
  make := mk
  columns :=
    .field "program" (·.program) .string <|
    .field "available" (·.available) .bool <|
    .field "version" (·.version) .optionalString <|
    .field "error" (·.error) .optionalString .done

def tree (d : ToolDiagnosis) : Tree := schema.tree d

def ofTree? (t : Tree) : Option ToolDiagnosis := schema.ofTree? false t

end ToolDiagnosis

end SlideConverter

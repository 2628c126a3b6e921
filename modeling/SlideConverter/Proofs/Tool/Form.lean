import SlideConverter.Proofs.Data.Schema
import SlideConverter.Tool.Form

/-!
# Tools that are read back

An invocation, an exit and a diagnosis are read back from each of their forms.
-/

namespace SlideConverter

open SlideConverter.Tree FieldKind

theorem Stage.ofTree?_tree (s : Stage) : ofTree? s.tree = some s := by
  cases s <;> rfl

theorem Stage.writable_tree (s : Stage) : s.tree.Writable := .string s.name

/-- A stage is written in one way only. -/
theorem Stage.stands (s : Stage) : (required Stage.tree Stage.ofTree?).Stands s (· = s.tree) :=
  stands_only _ s.writable_tree s.ofTree?_tree

namespace Invocation

/-- How an invocation may be written. -/
def Form (i : Invocation) : Tree → Prop :=
  IsRecord schema.fields
    [(· = i.stage.tree), (· = .string i.program), (· = .list (i.arguments.map .string))]

theorem readBack (i : Invocation) : ReadBack tree ofTree? Form i := by
  have known : schema.columns.Forms i _ :=
    .field i.stage.stands <| .field (stands_string _) <| .field (stands_strings _) .done
  exact schema.readBack false known rfl

end Invocation

namespace ToolExit

def codeTree (code : Option Int32) : Tree := Tree.option (.integer ·.toInt) code

theorem stands_code (absence : Absence) (code : Option Int32) :
    (codeKind absence).Stands code (· = codeTree code) :=
  stands_nullable absence (fun n : Int32 => .integer n.toInt) (fun _ => .integer _)
    int32?_integer (fun _ => by simp) code

/-- How an exit may be written. -/
def Form (e : ToolExit) : Tree → Prop := IsRecord schema.fields [(· = codeTree e.code)]

theorem readBack (e : ToolExit) : ReadBack tree ofTree? Form e := by
  have known : schema.columns.Forms e _ := .field (stands_code .optional _) .done
  exact schema.readBack false known rfl

end ToolExit

namespace ToolDiagnosis

/-- How a diagnosis may be written. -/
def Form (d : ToolDiagnosis) : Tree → Prop :=
  IsRecord schema.fields [(· = .string d.program), (· = .bool d.available),
    (· = Tree.option .string d.version), (· = Tree.option .string d.error)]

theorem readBack (d : ToolDiagnosis) : ReadBack tree ofTree? Form d := by
  have known : schema.columns.Forms d _ :=
    .field (stands_string _) <| .field (stands_bool _) <| .field (stands_optionalString _) <|
      .field (stands_optionalString _) .done
  exact schema.readBack false known rfl

end ToolDiagnosis

end SlideConverter

import SlideConverter.Conversion.Form
import SlideConverter.Proofs.Tool.Form

/-!
# States, results and reports that are read back

What has a failure or the reports of stages in it is read back from each of their forms.
-/

namespace SlideConverter

open SlideConverter.Tree FieldKind

variable {t : Tree}

theorem FailureKind.stands (k : FailureKind) :
    (required FailureKind.tree FailureKind.ofTree?).Stands k (· = k.tree) :=
  stands_only _ (.string k.name) (by cases k <;> rfl)

namespace Failure

/-- How a failure may be written. -/
def Form (f : Failure) : Tree → Prop :=
  IsRecord schema.fields [(· = f.kind.tree), (· = .string f.reason)]

theorem readBack (f : Failure) : ReadBack tree ofTree? Form f := by
  have known : schema.columns.Forms f _ := .field f.kind.stands <| .field (stands_string _) .done
  exact schema.readBack false known rfl

/-- How a variant that carries a failure may be written. -/
def Carried (f : Failure) (t : Tree) : Prop :=
  ∃ payload, f.Form payload ∧ t = .record [("Failed", payload)]

theorem carried_tree (f : Failure) : f.Carried (.record [("Failed", f.tree)]) :=
  ⟨f.tree, f.readBack.own, rfl⟩

theorem writable_carried (f : Failure) : (Tree.record [("Failed", f.tree)]).Writable := by
  apply Writable.record
  simp [f.readBack.writable]

end Failure

namespace JobState

/-- How a state may be written. -/
def Form : JobState → Tree → Prop
  | .failed f => f.Carried
  | s => (· = s.tree)

theorem form_tree (s : JobState) : s.Form s.tree := by
  cases s with
  | failed f => exact f.carried_tree
  | _ => rfl

theorem writable_tree (s : JobState) : s.tree.Writable := by
  cases s with
  | failed f => exact f.writable_carried
  | _ => exact .string _

theorem ofTree?_of_form {s : JobState} (form : s.Form t) : ofTree? t = some s := by
  cases s with
  | failed f =>
    obtain ⟨payload, form, rfl⟩ := form
    show (Failure.ofTree? payload).map JobState.failed = _
    rw [f.readBack.reads _ form, Option.map_some]
  | _ =>
    cases form
    rfl

theorem readBack (s : JobState) : ReadBack tree ofTree? Form s :=
  ⟨s.form_tree, s.writable_tree, fun _ => ofTree?_of_form⟩

end JobState

namespace PollResult

/-- How a result may be written. -/
def Form : PollResult → Tree → Prop
  | .failed f => f.Carried
  | r => (· = r.tree)

theorem form_tree (r : PollResult) : r.Form r.tree := by
  cases r with
  | failed f => exact f.carried_tree
  | _ => rfl

theorem writable_tree (r : PollResult) : r.tree.Writable := by
  cases r with
  | failed f => exact f.writable_carried
  | inProgress stage =>
    apply Writable.record
    simp [writable_option Stage.writable_tree]
  | _ => exact .string _

theorem ofTree?_of_form {r : PollResult} (form : r.Form t) : ofTree? t = some r := by
  cases r with
  | failed f =>
    obtain ⟨payload, form, rfl⟩ := form
    show (Failure.ofTree? payload).map PollResult.failed = _
    rw [f.readBack.reads _ form, Option.map_some]
  | inProgress stage =>
    obtain rfl := form
    show ((option Stage.tree stage).nullable? Stage.ofTree?).map PollResult.inProgress = _
    rw [nullable?_option Stage.ofTree?_tree (fun _ => by simp [Stage.tree, Tree.string]),
      Option.map_some]
  | _ =>
    cases form
    rfl

theorem readBack (r : PollResult) : ReadBack tree ofTree? Form r :=
  ⟨r.form_tree, r.writable_tree, fun _ => ofTree?_of_form⟩

end PollResult

namespace StageReport

/-- How the report of a stage may be written. -/
def Form (r : StageReport) : Tree → Prop :=
  IsRecord schema.fields [(· = r.stage.tree), (· = .string r.command), (· = .integer r.pid.toNat),
    (· = ToolExit.codeTree r.exitCode), (· = .ofUInt64 r.elapsedMs), (· = .bool r.killed)]

theorem readBack (r : StageReport) : ReadBack tree ofTree? Form r := by
  have known : schema.columns.Forms r _ :=
    .field r.stage.stands <| .field (stands_string _) <| .field (stands_uint32 _) <|
      .field (ToolExit.stands_code .defaulted _) <| .field (stands_uint64 _) <|
      .field (stands_bool _) .done
  exact schema.readBack false known rfl

end StageReport

namespace JobReport

/-- How the report of a job may be written. -/
def Form (r : JobReport) : Tree → Prop :=
  IsRecord schema.fields [(· = .ofUInt64 r.jobId), (· = .string r.source), (· = .string r.workDir),
    (· = .bool r.skippedIntermediate), (· = .string r.state),
    (· = Tree.option .string r.failure), IsListOf StageReport.Form r.stages]

theorem readBack (r : JobReport) : ReadBack tree ofTree? Form r := by
  have stages := stands_list fun s (_ : s ∈ r.stages) => s.readBack
  have known : schema.columns.Forms r _ :=
    .field (stands_uint64 _) <| .field (stands_string _) <| .field (stands_string _) <|
      .field (stands_bool _) <| .field (stands_string _) <| .field (stands_optionalString _) <|
      .field stages .done
  exact schema.readBack false known rfl

end JobReport

end SlideConverter

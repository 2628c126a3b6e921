import SlideConverter.CommandLine.Session
import SlideConverter.Proofs.Conversion.Form
import SlideConverter.Proofs.Data.Sorted
import SlideConverter.Proofs.Path
import SlideConverter.Proofs.Slide.Form

/-!
# Summaries

The summary of a conversion is a table with six fields in the order of their names. Where its paths
are text it can be printed, and it can be printed nowhere else.
-/

namespace SlideConverter

open Text SlideConverter.Tree

variable {t : Tree}

theorem ToolExit.sorted_codeTree (code : Option Int32) :
    (codeTree code).sorted = codeTree code := by
  cases code <;> rfl

theorem StageReport.form_sorted {r : StageReport} (form : r.Form t) : r.Form t.sorted := by
  apply IsRecord.sorted form
  simp [Stage.tree, ToolExit.sorted_codeTree]

theorem JobReport.form_sorted {r : JobReport} (form : r.Form t) : r.Form t.sorted := by
  apply IsRecord.sorted form
  have stages : ∀ t, IsListOf StageReport.Form r.stages t →
      IsListOf StageReport.Form r.stages t.sorted :=
    fun _ listed => listed.sorted fun _ _ => StageReport.form_sorted
  simpa using stages

theorem Slide.form_sorted {s : Slide} (form : s.Form t) : s.Form t.sorted := by
  apply IsRecord.sorted form
  simp [Path.tree]

/-- The form does not depend on the path being text. -/
theorem Slide.form_tree (s : Slide) : s.Form s.tree :=
  Given.isRecord <| .there rfl <| .there rfl .nil

theorem isText_tree (p : Path) : p.tree.isText = (Utf8.decode? p.bytes).isSome := rfl

namespace CommandLine

variable {started finished : Nat} {workDir : Path} {slides : SlideCollection} {report : JobReport}

/-- The six fields of a summary, in any order: the slides one after the other, and the report. -/
inductive IsSummary (started finished : Nat) (workDir : Path) (slides : SlideCollection)
    (report : JobReport) : Tree → Prop
  | mk {listed reported : Tree} {entries : List (String × Tree)}
      (slidesForm : IsListOf Slide.Form slides.slides listed)
      (reportForm : report.Form reported)
      (fields : entries.Perm [("status", .string "ok"), ("started", .string (timestamp started)),
        ("finished", .string (timestamp finished)), ("work_dir", workDir.tree),
        ("slides", listed), ("report", reported)]) :
    IsSummary started finished workDir slides report (.record entries)

theorem isSummary_summary (started finished : Nat) (workDir : Path) (slides : SlideCollection)
    (report : JobReport) :
    IsSummary started finished workDir slides report
      (summary started finished workDir slides report) := by
  have listed : IsListOf Slide.Form slides.slides (.list (slides.slides.map Slide.tree)) :=
    isListOf_map fun s _ => s.form_tree
  obtain ⟨ordered, same, perm⟩ := exists_sorted_record [("status", .string "ok"),
    ("started", .string (timestamp started)), ("finished", .string (timestamp finished)),
    ("work_dir", workDir.tree), ("slides", .list (slides.slides.map Slide.tree)),
    ("report", report.tree)]
  rw [summary, same]
  exact .mk (listed.sorted fun _ _ => Slide.form_sorted)
    (JobReport.form_sorted report.readBack.own) perm

/-- A summary is text if its paths are. -/
theorem isText_summary : (summary started finished workDir slides report).isText = true ↔
    workDir.IsText ∧ ∀ slide ∈ slides.slides, slide.imagePath.IsText := by
  have slide : ∀ s : Slide, s.tree.isText = s.imagePath.tree.isText := by
    intro s
    rw [Slide.tree, Schema.tree, isText_record]
    simp [Slide.schema, Columns.entries, FieldKind.required, Tree.isText]
  simp [summary, Tree.isText_sorted, Tree.isText_record, Tree.string, Tree.isText,
    report.readBack.writable.isText, Tree.itemsAreText_eq_all, slide, isText_tree, Path.IsText,
    Utf8.IsText]

theorem writable_summary (dir : workDir.IsText)
    (images : ∀ slide ∈ slides.slides, slide.imagePath.IsText) :
    (summary started finished workDir slides report).Writable := by
  apply Writable.sorted
  apply Writable.record
  have slide : ∀ s ∈ slides.slides, s.tree.Writable := by
    intro s there
    apply Writable.record
    simp [Slide.schema, Columns.entries, FieldKind.required, Path.writable_tree (images s there),
      Writable.integer]
  have listed : (Tree.list (slides.slides.map Slide.tree)).Writable := writable_list_map slide
  simp [Writable.string, Path.writable_tree dir, listed, report.readBack.writable]

end CommandLine

end SlideConverter

import SlideConverter.Proofs.CommandLine.ExitCode

/-!
# Paths that cannot be printed

Paths are bytes, and go through a session as they are, but there is no JSON text for a path that
is no text. A session that would have to print one breaks off with exit code 101; every other one
ends with 0, or with 1 and a reason in the log.
-/

namespace SlideConverter.CommandLine

open Session Text

variable {setting : Setting} {a : Arguments} {config : Config} {filter : LogFilter}
  {input : Path} {events : List SessionEvent} {outcome : Except Failing Unit}

/-- The session has come to a point at which it has to print a path that is no text. -/
def Unprintable (setting : Setting) (a : Arguments) (events : List SessionEvent) : Prop :=
  match a.command with
  | .doctor => False
  | .classify input => ¬ input.IsText ∧ ¬ Unready a events
  | .convert input named => ∃ config job slides summary,
      Goes setting a input named events (some (config, .done job slides (some summary))) ∧
        (¬ job.workDir.IsText ∨ ∃ slide ∈ slides.slides, ¬ slide.imagePath.IsText)

theorem exitCode_printing (t : Tree) :
    exitCode (printing t) = if t.isText then 0 else 101 := by
  rw [printing]
  cases t.isText <;> rfl

/-- A diagnosis of tools is text. -/
theorem doctor_course (course : (doctor config filter).Course events outcome) :
    exitCode outcome = 0 := by
  obtain ⟨_, found, _, -, -, logging⟩ := Dialogue.course_bind.mp course
  obtain ⟨_, _, _, -, -, telling⟩ := Dialogue.course_bind.mp logging
  obtain ⟨-, rfl⟩ := printTree_course.mp telling
  have readable : (Tree.list (found.map ToolDiagnosis.tree)).isText = true :=
    (Tree.writable_list_map fun d _ => d.readBack.writable).isText
  rw [exitCode_printing, if_pos readable]

theorem isText_classification {exist : Bool} :
    (classification config input exist).isText = true ↔ input.IsText := by
  simp [classification, Tree.isText_record, Tree.string, Tree.isText, isText_tree, Path.IsText,
    Utf8.IsText]

theorem classify_course (course : (classify config input).Course events outcome) :
    exitCode outcome = if input.IsText then 0 else 101 := by
  obtain ⟨exist, _, -, telling⟩ := course_inquire_bind.mp course
  obtain ⟨-, rfl⟩ := printTree_course.mp telling
  simp only [exitCode_printing, isText_classification]

/-- A conversion is broken off just when its summary holds a path that is no text. -/
theorem Ending.Sound.exitCode_iff {job : Job} {slides : SlideCollection} {summary : Tree}
    (sound : (Ending.done job slides (some summary)).Sound config events) :
    (Ending.done job slides (some summary)).exitCode = 101 ↔
      ¬ job.workDir.IsText ∨ ∃ slide ∈ slides.slides, ¬ slide.imagePath.IsText := by
  obtain ⟨-, -, summarized⟩ := sound
  by_cases on : config.global.printSummary = true
  · rw [if_pos on] at summarized
    obtain ⟨started, finished, same⟩ := summarized
    obtain rfl := Option.some.inj same
    rw [Ending.exitCode, Option.all_some]
    by_cases readable : (CommandLine.summary started finished job.workDir slides job.report).isText
    · obtain ⟨dir, images⟩ := isText_summary.mp readable
      rw [if_pos readable]
      constructor
      · rintro ⟨⟩
      · rintro (bad | ⟨slide, there, bad⟩)
        · exact absurd dir bad
        · exact absurd (images slide there) bad
    · rw [if_neg readable]
      constructor
      · intro _
        by_contra all
        push Not at all
        exact readable (isText_summary.mpr all)
      · intro _
        rfl
  · rw [if_neg on] at summarized
    cases summarized

/-! ## Sessions -/

theorem doctored_course {code : UInt8} (asked : a.command = .doctor)
    (course : (runArguments setting a).Course events code) : code = 0 ∨ code = 1 := by
  rcases runArguments_course.mp course with
    ⟨-, one⟩ | ⟨_, config, _, outcome, _, -, -, performed, concluded⟩
  · exact .inr one
  · rw [asked] at performed
    exact .inl ((conclude_course concluded).trans (doctor_course performed))

theorem classified_course {code : UInt8} (asked : a.command = .classify input)
    (course : (runArguments setting a).Course events code) :
    Unready a events ∧ code = 1 ∨
      ¬ Unready a events ∧ code = if input.IsText then 0 else 101 := by
  by_cases unready : Unready a events
  · exact .inl ⟨unready,
      Dialogue.course_unique course (runArguments_course.mpr (.inl ⟨unready, rfl⟩))⟩
  · rcases runArguments_course.mp course with
      ⟨refused, -⟩ | ⟨_, config, _, outcome, _, -, -, performed, concluded⟩
    · exact absurd refused unready
    · rw [asked] at performed
      exact .inr ⟨unready, (conclude_course concluded).trans (classify_course performed)⟩

theorem converted_exitCode (ending : Ending) :
    ending.exitCode = 0 ∨ ending.exitCode = 1 ∨ ending.exitCode = 101 ∧
      ∃ job slides summary, ending = .done job slides (some summary) := by
  cases ending with
  | done job slides summary =>
    cases summary with
    | none => exact .inl rfl
    | some t =>
      rw [Ending.exitCode, Option.all_some]
      cases t.isText with
      | true => exact .inl rfl
      | false => exact .inr (.inr ⟨rfl, job, slides, t, rfl⟩)
  | turnedDown | unended | incomplete | failed | cancelled | unscanned => exact .inr (.inl rfl)

/-- A session ends with 0 or 1, or breaks off with 101, which it does exactly where it has to
print a path that is no text. -/
theorem exit_code_101_iff_unprintable {σ : Type}
    (r : Respondent Inquiry Inquiry.Answer σ) (setting : Setting) (a : Arguments) (s : σ) :
    let p := (runArguments setting a).perform r s
    (p.value = 0 ∨ p.value = 1 ∨ p.value = 101) ∧
      (p.value = 101 ↔ Unprintable setting a p.events) := by
  intro p
  have course : (runArguments setting a).Course p.events p.value :=
    (runArguments setting a).perform_course r s
  rw [Unprintable]
  cases asked : a.command with
  | doctor =>
    rcases doctored_course asked course with zero | one
    · simp [zero]
    · simp [one]
  | classify input =>
    rcases classified_course asked course with ⟨unready, one⟩ | ⟨ready, code⟩
    · simp [unready, one]
    · by_cases readable : input.IsText
      · simp [code, readable]
      · simp [code, readable, ready]
  | convert input named =>
    obtain ⟨outcome, goes, code⟩ := (goes_course asked).mp course
    constructor
    · cases outcome with
      | none => exact .inr (.inl code)
      | some e =>
        rw [code]
        rcases converted_exitCode e.2 with zero | one | ⟨broken, -⟩
        · exact .inl zero
        · exact .inr (.inl one)
        · exact .inr (.inr broken)
    · constructor
      · intro broken
        rw [code] at broken
        cases outcome with
        | none => cases broken
        | some e =>
          obtain ⟨config, ending⟩ := e
          rcases converted_exitCode ending with zero | one | ⟨-, job, slides, summary, rfl⟩
          · cases zero.symm.trans broken
          · cases one.symm.trans broken
          · exact ⟨config, job, slides, summary, goes, goes.sound.exitCode_iff.mp broken⟩
      · rintro ⟨config, job, slides, summary, done, bad⟩
        have other := (goes_course asked).mpr ⟨_, done, rfl⟩
        rw [Dialogue.course_unique course other]
        exact done.sound.exitCode_iff.mpr bad

end SlideConverter.CommandLine

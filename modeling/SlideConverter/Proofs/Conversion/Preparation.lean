import SlideConverter.Proofs.Conversion.Move

/-!
# What a start can ask

The ways in which a source is checked, a working directory made ready and the staged copy
put into it, each with everything that is asked on that way.
-/

namespace SlideConverter.Converter

open Job

variable {config : Config} {source workDir : Path} {events : List ActEvent}

/-- A working directory that is there is found to be empty and writable. -/
def inspection (workDir : Path) : Bool → List ActEvent
  | true => [.asked (.pathExists workDir) true, .asked (.isEmptyDir workDir) (.ok true),
      .asked (.checkWritable workDir) (.ok ())]
  | false => [.asked (.pathExists workDir) false]

inductive Housing (workDir : Path) : List ActEvent → Except ConversionError Bool → Prop
  | unlistable (cause : ErrorChain) :
    Housing workDir
      [.asked (.pathExists workDir) true, .asked (.isEmptyDir workDir) (.error cause)]
      (.error (.invalidInput (.unusable cause)))
  | occupied :
    Housing workDir [.asked (.pathExists workDir) true, .asked (.isEmptyDir workDir) (.ok false)]
      (.error (.invalidInput (.workDirNotEmpty workDir)))
  | unwritable (cause : ErrorChain) :
    Housing workDir
      [.asked (.pathExists workDir) true, .asked (.isEmptyDir workDir) (.ok true),
        .asked (.checkWritable workDir) (.error cause)]
      (.error (.invalidInput (.unusable cause)))
  | unmade (preexisting : Bool) (cause : ErrorChain) :
    Housing workDir
      (inspection workDir preexisting ++ [.asked (.createDirAll workDir) (.error cause)])
      (.error (.filesystem cause))
  | made (preexisting : Bool) :
    Housing workDir (inspection workDir preexisting ++ [.asked (.createDirAll workDir) (.ok ())])
      (.ok preexisting)

theorem housing_course {result : Except ConversionError Bool}
    (course : (prepareWorkDir workDir).Course events result) : Housing workDir events result := by
  obtain ⟨there, rest, rfl, answered⟩ := course_ask_bind.mp course
  cases there with
  | false =>
    obtain ⟨answer, rest, rfl, made⟩ := course_ask_bind.mp answered
    cases answer <;> obtain ⟨rfl, rfl⟩ := Dialogue.course_pure.mp made
    · exact .unmade false _
    · exact .made false
  | true =>
    obtain ⟨empty, rest, rfl, looked⟩ := course_ask_bind.mp answered
    match empty with
    | .error cause =>
      obtain ⟨rfl, rfl⟩ := Dialogue.course_pure.mp looked
      exact .unlistable cause
    | .ok false =>
      obtain ⟨rfl, rfl⟩ := Dialogue.course_pure.mp looked
      exact .occupied
    | .ok true =>
      obtain ⟨writable, rest, rfl, tried⟩ := course_ask_bind.mp looked
      cases writable with
      | error cause =>
        obtain ⟨rfl, rfl⟩ := Dialogue.course_pure.mp tried
        exact .unwritable cause
      | ok done =>
        obtain ⟨answer, rest, rfl, made⟩ := course_ask_bind.mp tried
        cases answer <;> obtain ⟨rfl, rfl⟩ := Dialogue.course_pure.mp made
        · exact .unmade true _
        · exact .made true

theorem fileName_of_isIntermediate (staged : config.pipeline.isIntermediate source = true) :
    ∃ name, source.fileName = some name := by
  cases named : source.fileName with
  | some name => exact ⟨name, rfl⟩
  | none =>
    simp [PipelineOptions.isIntermediate, Path.extensionText, Path.extension, named] at staged

inductive Staging (config : Config) (source workDir : Path) (preexisting : Bool) :
    List ActEvent → Except ConversionError (Option Path) → Prop
  | plain (document : config.pipeline.isIntermediate source = false) :
    Staging config source workDir preexisting [] (.ok none)
  | copied (name : Text.Bytes) (staged : config.pipeline.isIntermediate source = true)
      (named : source.fileName = some name) :
    Staging config source workDir preexisting [.asked (.copy source (workDir.join ⟨name⟩)) (.ok ())]
      (.ok (some (workDir.join ⟨name⟩)))
  | left (name : Text.Bytes) (cause : ErrorChain)
      (staged : config.pipeline.isIntermediate source = true)
      (named : source.fileName = some name) (callers : preexisting = true) :
    Staging config source workDir preexisting
      [.asked (.copy source (workDir.join ⟨name⟩)) (.error cause)] (.error (.filesystem cause))
  | undone (name : Text.Bytes) (cause : ErrorChain) {cleaning : List ActEvent}
      (staged : config.pipeline.isIntermediate source = true)
      (named : source.fileName = some name) (own : preexisting = false)
      (cleanup : Cleanup workDir cleaning) :
    Staging config source workDir preexisting
      (.asked (.copy source (workDir.join ⟨name⟩)) (.error cause) :: cleaning)
      (.error (.filesystem cause))

theorem staging_course {preexisting : Bool} {result : Except ConversionError (Option Path)}
    (course : (stageSource config source workDir preexisting).Course events result) :
    Staging config source workDir preexisting events result := by
  rw [stageSource] at course
  split at course
  · rename_i staged
    obtain ⟨name, named⟩ := fileName_of_isIntermediate staged
    simp only [named] at course
    obtain ⟨answer, rest, rfl, copied⟩ := course_ask_bind.mp course
    cases answer with
    | ok done =>
      obtain ⟨rfl, rfl⟩ := Dialogue.course_pure.mp copied
      exact .copied name staged named
    | error cause =>
      cases preexisting with
      | true =>
        obtain ⟨rfl, rfl⟩ := Dialogue.course_pure.mp copied
        exact .left name cause staged named rfl
      | false =>
        obtain ⟨_, cleaned, rfl⟩ := Dialogue.course_reshape copied fun _ => rfl
        exact .undone name cause staged named rfl (cleanup_course cleaned)
  · rename_i document
    obtain ⟨rfl, rfl⟩ := Dialogue.course_pure.mp course
    exact .plain (by simpa using document)

inductive Preparation (config : Config) (source workDir : Path) :
    List ActEvent → Except ConversionError (Option Path) → Prop
  | unsupported (refused : config.pipeline.accepts source = false) :
    Preparation config source workDir [] (.error (.invalidInput (.unsupportedType source)))
  | unreadable (cause : ErrorChain) (accepted : config.pipeline.accepts source = true) :
    Preparation config source workDir [.asked (.checkReadable source) (.error cause)]
      (.error (.invalidInput (.unusable cause)))
  | unhoused {events : List ActEvent} {error : ConversionError}
      (accepted : config.pipeline.accepts source = true)
      (housing : Housing workDir events (.error error)) :
    Preparation config source workDir (.asked (.checkReadable source) (.ok ()) :: events)
      (.error error)
  | housed (preexisting : Bool) {housing staging : List ActEvent}
      {result : Except ConversionError (Option Path)}
      (accepted : config.pipeline.accepts source = true)
      (house : Housing workDir housing (.ok preexisting))
      (stage : Staging config source workDir preexisting staging result) :
    Preparation config source workDir
      (.asked (.checkReadable source) (.ok ()) :: (housing ++ staging)) result

theorem preparation_course {result : Except ConversionError (Option Path)}
    (course : (prepare config source workDir).Course events result) :
    Preparation config source workDir events result := by
  rw [prepare] at course
  split at course
  · rename_i refused
    obtain ⟨rfl, rfl⟩ := Dialogue.course_pure.mp course
    exact .unsupported (by simpa using refused)
  · rename_i accepted
    have accepted : config.pipeline.accepts source = true := by simpa using accepted
    obtain ⟨readable, rest, rfl, answered⟩ := course_ask_bind.mp course
    cases readable with
    | error cause =>
      obtain ⟨rfl, rfl⟩ := Dialogue.course_pure.mp answered
      exact .unreadable cause accepted
    | ok done =>
      obtain ⟨housing, housed, rest, rfl, house, after⟩ := Dialogue.course_bind.mp answered
      cases housed with
      | error e =>
        obtain ⟨rfl, rfl⟩ := Dialogue.course_pure.mp after
        rw [List.append_nil]
        exact .unhoused accepted (housing_course house)
      | ok preexisting =>
        exact .housed preexisting accepted (housing_course house) (staging_course after)

end SlideConverter.Converter

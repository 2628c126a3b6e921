import SlideConverter.Proofs.Conversion.Conduct

/-!
# Starts that are refused

A start is refused because a job is at work, or because of what it is given. Either way nothing
has been changed by then, neither the converter nor the disk. What it is given is looked at in a
fixed order, source first, so a start is refused for it exactly if one of the looks goes wrong. A
source without a name is never met: its extension would not have been accepted.
-/

namespace SlideConverter

/-- Whether the disk may be another one afterwards. -/
@[simp] def changesDisk : ActEvent → Bool
  | .asked (.createDirAll _) _ | .asked (.copy _ _) _ | .asked (.removeFile _) _
  | .asked (.removeDirAll _) _ => true
  | _ => false

namespace Converter

open Job

/-- The working directory is there but of no use, as it is answered from state `s` on. -/
def WorkDirUnfit {σ : Type} (r : Surroundings σ) (workDir : Path) (s : σ) : Prop :=
  let there := r.answer (.pathExists workDir) s
  let empty := r.answer (.isEmptyDir workDir) there.2
  let writable := r.answer (.checkWritable workDir) empty.2
  there.1 = true ∧
    ((∃ cause, empty.1 = .error cause) ∨ empty.1 = .ok false ∨ ∃ cause, writable.1 = .error cause)

/-- What a start is given is of no use, as it is answered from state `s` on. -/
def InputUnfit {σ : Type} (config : Config) (r : Surroundings σ) (source workDir : Path) (s : σ) :
    Prop :=
  let readable := r.answer (.checkReadable source) s
  config.pipeline.accepts source = false ∨ (∃ cause, readable.1 = .error cause) ∨
    WorkDirUnfit r workDir readable.2

variable {σ : Type} {r : Surroundings σ} {s s' : σ} {c c' : Converter} {config : Config}
  {source workDir : Path} {events : List ActEvent}

theorem Housing.unfit_iff {result : Except ConversionError Bool}
    (housing : Housing workDir events result) (answers : r.Answers s events s') :
    (∃ fault, result = .error (.invalidInput fault)) ↔ WorkDirUnfit r workDir s := by
  cases housing with
  | unlistable cause =>
    obtain ⟨there, unlistable, -⟩ := answers
    exact ⟨fun _ => ⟨there, .inl ⟨cause, unlistable⟩⟩, fun _ => ⟨_, rfl⟩⟩
  | occupied =>
    obtain ⟨there, occupied, -⟩ := answers
    exact ⟨fun _ => ⟨there, .inr (.inl occupied)⟩, fun _ => ⟨_, rfl⟩⟩
  | unwritable cause =>
    obtain ⟨there, -, unwritable, -⟩ := answers
    exact ⟨fun _ => ⟨there, .inr (.inr ⟨cause, unwritable⟩)⟩, fun _ => ⟨_, rfl⟩⟩
  | unmade preexisting | made preexisting =>
    have fit : ¬ WorkDirUnfit r workDir s := by
      rintro ⟨there, unfit⟩
      cases preexisting with
      | false =>
        obtain ⟨missing, -⟩ := answers
        simp [there] at missing
      | true =>
        obtain ⟨-, empty, writable, -⟩ := answers
        simp [empty, writable] at unfit
    exact ⟨by simp, fun unfit => absurd unfit fit⟩

/-- An input that is of no use is found out before the working directory is made. -/
theorem Housing.changes_nothing {fault : InputFault}
    (housing : Housing workDir events (.error (.invalidInput fault))) :
    ∀ e ∈ events, changesDisk e = false := by
  cases housing <;> simp

theorem Housing.fault_ne {fault : InputFault}
    (housing : Housing workDir events (.error (.invalidInput fault))) (path : Path) :
    fault ≠ .sourceWithoutName path := by
  cases housing <;> simp

/-- Nothing is found fault with once the working directory is ready: what is staged has a name. -/
theorem Staging.fit {preexisting : Bool} {result : Except ConversionError (Option Path)}
    (staging : Staging config source workDir preexisting events result) (fault : InputFault) :
    result ≠ .error (.invalidInput fault) := by
  cases staging <;> simp

theorem Preparation.unfit_iff {result : Except ConversionError (Option Path)}
    (prepared : Preparation config source workDir events result) (answers : r.Answers s events s') :
    (∃ fault, result = .error (.invalidInput fault)) ↔ InputUnfit config r source workDir s := by
  cases prepared with
  | unsupported refused => exact ⟨fun _ => .inl refused, fun _ => ⟨_, rfl⟩⟩
  | unreadable cause accepted =>
    obtain ⟨unreadable, -⟩ := answers
    exact ⟨fun _ => .inr (.inl ⟨cause, unreadable⟩), fun _ => ⟨_, rfl⟩⟩
  | unhoused accepted housing =>
    obtain ⟨readable, answers⟩ := answers
    have unfit := housing.unfit_iff answers
    simpa [InputUnfit, accepted, readable] using unfit
  | housed preexisting accepted house stage =>
    obtain ⟨readable, answers⟩ := answers
    obtain ⟨between, housing, -⟩ := Respondent.answers_append.mp answers
    have fit : ¬ WorkDirUnfit r workDir (r.answer (.checkReadable source) s).2 := by
      rw [← house.unfit_iff housing]
      simp
    constructor
    · rintro ⟨fault, unfit⟩
      exact absurd unfit (stage.fit fault)
    · simp [InputUnfit, accepted, readable, fit]

theorem Preparation.changes_nothing {fault : InputFault}
    (prepared : Preparation config source workDir events (.error (.invalidInput fault))) :
    ∀ e ∈ events, changesDisk e = false := by
  cases prepared with
  | unsupported | unreadable => simp
  | unhoused _ housing => exact List.forall_mem_cons.mpr ⟨rfl, housing.changes_nothing⟩
  | housed _ _ _ stage => exact absurd rfl (stage.fit fault)

theorem Preparation.fault_ne {fault : InputFault}
    (prepared : Preparation config source workDir events (.error (.invalidInput fault)))
    (path : Path) : fault ≠ .sourceWithoutName path := by
  cases prepared with
  | unsupported | unreadable => simp
  | unhoused _ housing => exact housing.fault_ne path
  | housed _ _ _ stage => exact absurd rfl (stage.fit fault)

/-- No preparation ends with a misuse. -/
theorem Preparation.not_usage {result : Except ConversionError (Option Path)}
    (prepared : Preparation config source workDir events result) (misuse : Misuse) :
    result ≠ .error (.usage misuse) := by
  cases prepared with
  | unsupported | unreadable => simp
  | unhoused _ housing => cases housing <;> simp
  | housed _ _ _ stage => cases stage <;> simp

/-- A start is misuse exactly while a job is at work, and then nothing is asked. Otherwise it is
refused for its input exactly if that is unfit. Either way the converter stays as it is and the
disk is only looked at. That a source has no name is never the reason. -/
theorem start_refused_iff (r : Surroundings σ) (c : Converter) (source workDir : Path) (s : σ) :
    let p := (c.start source workDir).perform r s
    ((∃ misuse, p.value.1 = .error (.usage misuse)) ↔
      ∃ job, c.job = some job ∧ job.state.isTerminal = false) ∧
    (∀ misuse, p.value.1 = .error (.usage misuse) →
      p.value.2 = c ∧ p.events = [] ∧ p.state = s) ∧
    (c.activeJob? = none → ((∃ fault, p.value.1 = .error (.invalidInput fault)) ↔
      InputUnfit c.config r source workDir s)) ∧
    (∀ fault, p.value.1 = .error (.invalidInput fault) →
      p.value.2 = c ∧ (∀ e ∈ p.events, changesDisk e = false) ∧
        ∀ path, fault ≠ .sourceWithoutName path) := by
  intro p
  have conduct := start_conduct ((c.start source workDir).perform_course r s)
  have answers : r.Answers s p.events p.state :=
    Respondent.answers_perform r (c.start source workDir) s
  change Conduct c (.start source workDir) p.events (.started p.value.1) p.value.2 at conduct
  generalize p.events = events, p.value.1 = result, p.value.2 = after, p.state = s' at *
  have free : c.activeJob? = none → ¬ ∃ job, c.job = some job ∧ job.state.isTerminal = false := by
    rintro idle ⟨job, active⟩
    simp [activeJob?_eq_some.mpr active] at idle
  cases conduct with
  | @busy _ _ job active =>
    refine ⟨?_, ?_, ?_, nofun⟩
    · exact ⟨fun _ => ⟨job, activeJob?_eq_some.mp active⟩, fun _ => ⟨_, rfl⟩⟩
    · exact fun _ _ => ⟨rfl, rfl, answers⟩
    · exact fun idle => by simp [active] at idle
  | @rejected _ _ _ error idle prepared =>
    have other : ∀ misuse, error ≠ .usage misuse := fun misuse same =>
      prepared.not_usage misuse (by rw [same])
    have unfit := prepared.unfit_iff answers
    refine ⟨?_, ?_, ?_, ?_⟩
    · simp [other, free idle]
    · simp [other]
    · simpa using fun _ => unfit
    · intro fault same
      cases same
      exact ⟨rfl, prepared.changes_nothing, prepared.fault_ne⟩
  | registered _ _ idle prepared =>
    have fit := prepared.unfit_iff answers
    refine ⟨by simp [free idle], nofun, ?_, nofun⟩
    simpa using fun _ => fit
  | worked other => cases other

end Converter

end SlideConverter

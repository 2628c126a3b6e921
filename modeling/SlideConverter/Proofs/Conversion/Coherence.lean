import SlideConverter.Proofs.Conversion.Conduct

/-!
# Coherent jobs

The fields of a job depend on each other: whether a tool is held, whether the
page-description file is known, and which tools have been reported all follow from the
state and the route. Every change of a job keeps this, so it holds in every history; and
then no job is ever asked to move back, and no step finds a tool missing.
-/

namespace SlideConverter

namespace Job

variable {config : Config} {job job' : Job} {events : List ActEvent}

/-- The tools a job has been through, where its state tells. -/
def stagesSoFar (job : Job) : Option (List Stage) :=
  match job.state with
  | .init => some []
  | .convertingToIntermediate => some [.intermediate]
  | .convertingToImages | .finished =>
    some (if job.skippedIntermediate then [.images] else [.intermediate, .images])
  | .cancelled | .failed _ => none

structure Coherent (job : Job) : Prop where
  running : job.running.isSome = true ↔
    job.state = .convertingToIntermediate ∨ job.state = .convertingToImages
  init : job.state = .init → job.intermediate.isSome = job.skippedIntermediate
  office : job.state = .convertingToIntermediate →
    job.intermediate = none ∧ job.skippedIntermediate = false
  raster : job.state = .convertingToImages → job.intermediate.isSome = true
  stages : ∀ stages, job.stagesSoFar = some stages → job.stages.map (·.stage) = stages
  lastReport : ∀ tool, job.running = some tool → ∃ earlier last, job.stages = earlier ++ [last] ∧
    last.pid = tool.process.pid ∧ last.exitCode = none ∧ last.killed = false

theorem map_updateLast {α β : Type} {f : α → α} {g : α → β} (same : ∀ a, g (f a) = g a)
    (l : List α) : (updateLast f l).map g = l.map g := by
  induction l with
  | nil => rfl
  | cons a rest ih =>
    cases rest with
    | nil => simp [updateLast, same]
    | cons b rest => simpa [updateLast] using ih

/-- A job that has been given up holds nothing, and that is all there is to say. -/
theorem coherent_of_given_up {last : JobState}
    (givenUp : last = .cancelled ∨ ∃ failure, last = .failed failure) (free : job.running = none) :
    (job.inState last).Coherent := by
  rcases givenUp with rfl | ⟨failure, rfl⟩
  · exact ⟨by simp [inState, free], nofun, nofun, nofun, nofun,
      fun tool held => by simp [inState, free] at held⟩
  · exact ⟨by simp [inState, free], nofun, nofun, nofun, nofun,
      fun tool held => by simp [inState, free] at held⟩

theorem Kill.running_eq_none (kill : Kill job events job') : job'.running = none := by
  cases kill with
  | free none => exact none
  | killed | refused => rfl

theorem Abort.coherent {last : JobState}
    (givenUp : last = .cancelled ∨ ∃ failure, last = .failed failure)
    (abort : Abort job last events job') : job'.Coherent := by
  obtain ⟨kill, -⟩ := abort
  exact coherent_of_given_up givenUp kill.running_eq_none

/-- Starting the tool of the next stage makes a coherent job, whichever stage it is. -/
theorem coherent_hold {invocation : Invocation} {process : ToolProcess} {time : Duration}
    {next : JobState} (stage : next.stage = some invocation.stage)
    (office : next = .convertingToIntermediate →
      job.intermediate = none ∧ job.skippedIntermediate = false)
    (raster : next = .convertingToImages → job.intermediate.isSome = true)
    (stages : (job.inState next).stagesSoFar =
      some (job.stages.map (·.stage) ++ [invocation.stage])) :
    ((job.hold invocation process time).inState next).Coherent where
  running := by cases next <;> simp_all [JobState.stage, inState, hold]
  init := by
    intro state
    have state : next = .init := state
    simp [state, JobState.stage] at stage
  office := office
  raster := raster
  stages := by
    intro stages' same
    have same : (job.inState next).stagesSoFar = some stages' := same
    rw [stages] at same
    cases same
    simp [inState, hold, openingReport]
  lastReport := by
    intro tool held
    cases held
    exact ⟨job.stages, _, rfl, rfl, rfl, rfl⟩

theorem Coherent.move (coherent : job.Coherent) (move : Move config job events job' none) :
    job'.Coherent := by
  cases move with
  | office state plain launch =>
    have skipped : job.skippedIntermediate = false := by
      have known := coherent.init state
      simpa [plain] using known.symm
    have fresh := coherent.stages [] (by simp [stagesSoFar, state])
    cases launch with
    | started process time =>
      refine coherent_hold rfl (fun _ => ⟨plain, skipped⟩) nofun ?_
      simp [stagesSoFar, inState, fresh, Invocation.office]
  | raster path state staged launch =>
    have skipped : job.skippedIntermediate = true := by
      have known := coherent.init state
      simpa [staged] using known.symm
    have fresh := coherent.stages [] (by simp [stagesSoFar, state])
    cases launch with
    | started process time =>
      refine coherent_hold rfl nofun (fun _ => by simp [staged]) ?_
      simp [stagesSoFar, inState, fresh, skipped, Invocation.raster]
  | atWork => exact coherent
  | converted tool exit time state held good rest =>
    obtain ⟨-, skipped⟩ := coherent.office state
    have soFar := coherent.stages [.intermediate] (by simp [stagesSoFar, state])
    cases rest with
    | found entries path least launch =>
      cases launch with
      | started process time' =>
        refine coherent_hold rfl nofun (fun _ => rfl) ?_
        have kept := map_updateLast (f := fun r : StageReport =>
          { r with exitCode := exit.code, elapsedMs := tool.elapsedMs time })
          (g := fun r => r.stage) (fun _ => rfl) job.stages
        simp [stagesSoFar, inState, release, skipped, kept, soFar, Invocation.raster]
  | rasterized tool exit time state held good rest =>
    have kept := map_updateLast (f := fun r : StageReport =>
      { r with exitCode := exit.code, elapsedMs := tool.elapsedMs time })
      (g := fun r => r.stage) (fun _ => rfl) job.stages
    have soFar := coherent.stages _ (by simp only [stagesSoFar, state]; rfl)
    have finished : ∀ path, (inState { job.release exit (tool.elapsedMs time) with
        intermediate := path } .finished).Coherent := by
      intro path
      refine ⟨by simp [inState, release], nofun, nofun, nofun, ?_, nofun⟩
      intro stages same
      cases same
      exact kept.trans soFar
    cases rest with
    | kept => exact finished job.intermediate
    | removed => exact finished none

theorem Coherent.turn (coherent : job.Coherent) (turn : Turn config job events job') :
    job'.Coherent := by
  cases turn with
  | moved move => exact coherent.move move
  | failed fault move abort => exact abort.coherent (.inr ⟨_, rfl⟩)

theorem Coherent.chain (coherent : job.Coherent) (chain : Chain config job events job') :
    job'.Coherent := by
  induction chain with
  | stay => exact coherent
  | pause _ _ ih => exact ih coherent
  | turn _ turn _ ih => exact ih (coherent.turn turn)
  | cancel _ abort _ ih => exact ih (abort.coherent (.inl rfl))

theorem Coherent.fault_ne_noTool (coherent : job.Coherent) (active : job.state.isTerminal = false)
    {fault : Fault} (move : Move config job events job' (some fault)) (state : JobState) :
    fault ≠ .noTool state := by
  rintro rfl
  cases move with
  | office _ _ launch => cases launch
  | raster _ _ _ launch => cases launch
  | noTool state free =>
    have held := coherent.running
    cases now : job.state <;> simp_all [JobState.isTerminal]
  | converted tool exit time _ _ _ rest =>
    cases rest with
    | found entries path least launch => cases launch
  | rasterized tool exit time _ _ _ rest => cases rest

/-! ## No move goes back -/

/-- No move that goes back is noted. -/
def ForwardOnly (events : List ActEvent) : Prop :=
  ∀ before after, .noted (.illegalTransition before after) ∉ events

theorem ForwardOnly.append {first second : List ActEvent} (before : ForwardOnly first)
    (after : ForwardOnly second) : ForwardOnly (first ++ second) := by
  intro b a h
  rcases List.mem_append.mp h with h | h
  · exact before b a h
  · exact after b a h

theorem Move.forwardOnly {fault : Option Fault} (move : Move config job events job' fault) :
    ForwardOnly events := by
  intro before after noted
  cases move.working _ noted

theorem Cleanup.forwardOnly {workDir : Path} (cleanup : Cleanup workDir events) :
    ForwardOnly events := by
  cases cleanup <;> simp [ForwardOnly]

theorem Abort.forwardOnly {last : JobState} (abort : Abort job last events job') :
    ForwardOnly events := by
  obtain ⟨kill, cleanup⟩ := abort
  refine ForwardOnly.append ?_ cleanup.forwardOnly
  cases kill <;> simp [ForwardOnly]

theorem Turn.forwardOnly (turn : Turn config job events job') : ForwardOnly events := by
  cases turn with
  | moved move => exact move.forwardOnly
  | failed fault move abort =>
    refine move.forwardOnly.append ?_
    simpa [ForwardOnly] using abort.forwardOnly

theorem Pause.forwardOnly {event : ActEvent} (pause : Pause event) : ForwardOnly [event] := by
  cases pause <;> simp [ForwardOnly]

theorem Chain.forwardOnly (chain : Chain config job events job') : ForwardOnly events := by
  induction chain with
  | stay => exact fun _ _ h => by cases h
  | pause idle _ ih => exact idle.forwardOnly.append ih
  | turn _ turn _ ih => exact turn.forwardOnly.append ih
  | cancel _ abort _ ih => exact abort.forwardOnly.append ih

end Job

open Job

namespace Converter

variable {c c' : Converter} {call : Call} {events : List ActEvent} {response : Response}

theorem Housing.forwardOnly {workDir : Path} {result : Except ConversionError Bool}
    (housing : Housing workDir events result) : ForwardOnly events := by
  cases housing with
  | unlistable | occupied | unwritable => simp [ForwardOnly]
  | unmade preexisting | made preexisting => cases preexisting <;> simp [ForwardOnly, inspection]

theorem Staging.forwardOnly {config : Config} {source workDir : Path} {preexisting : Bool}
    {result : Except ConversionError (Option Path)}
    (staging : Staging config source workDir preexisting events result) : ForwardOnly events := by
  cases staging with
  | plain | copied | left => simp [ForwardOnly]
  | undone _ _ _ _ _ cleanup => simpa [ForwardOnly] using cleanup.forwardOnly

theorem Preparation.forwardOnly {config : Config} {source workDir : Path}
    {result : Except ConversionError (Option Path)}
    (preparation : Preparation config source workDir events result) : ForwardOnly events := by
  cases preparation with
  | unsupported | unreadable => simp [ForwardOnly]
  | unhoused _ housing => simpa [ForwardOnly] using housing.forwardOnly
  | housed _ _ house stage => simpa [ForwardOnly] using house.forwardOnly.append stage.forwardOnly

theorem Conduct.forwardOnly (conduct : Conduct c call events response c') :
    ForwardOnly events := by
  cases conduct with
  | busy => exact fun _ _ h => by cases h
  | rejected _ _ _ prepared => exact prepared.forwardOnly
  | registered _ _ _ prepared => exact prepared.forwardOnly
  | listed => simp [ForwardOnly]
  | worked _ _ works =>
    cases works with
    | idle pauses =>
      intro before after noted
      cases pauses _ noted
    | busy _ chain => exact chain.forwardOnly

/-- The job of a converter, if it has one, is coherent. -/
def Coherent (c : Converter) : Prop := ∀ job, c.job = some job → job.Coherent

theorem coherent_register (source workDir : Path) (staged : Option Path) :
    (c.register source workDir staged).2.Coherent := by
  intro job same
  cases same
  refine ⟨by simp, fun _ => rfl, nofun, nofun, ?_, nofun⟩
  intro stages same
  cases same
  rfl

theorem Coherent.works (coherent : c.Coherent) (works : Works c events c') : c'.Coherent := by
  cases works with
  | idle => exact coherent
  | busy current chain =>
    intro job same
    cases same
    exact (coherent _ current).chain chain

theorem Coherent.conduct (coherent : c.Coherent) (conduct : Conduct c call events response c') :
    c'.Coherent := by
  cases conduct with
  | busy | rejected | listed => exact coherent
  | registered source workDir _ _ => exact coherent_register source workDir _
  | worked _ _ works => exact coherent.works works

theorem coherent_initial (config : Config) (compiler : PatternCompiler) :
    Coherent { config, compiler } :=
  fun job same => by cases same

theorem Coherent.linked {σ : Type} {r : Surroundings σ} {s s' : σ}
    {exchanges : List (Exchange σ)} (coherent : c.Coherent)
    (linked : History.Linked r c s exchanges c' s') :
    c'.Coherent ∧ ∀ e ∈ exchanges, e.before.Coherent ∧ History.Genuine e :=
  linked.keeps Coherent
    (fun _ _ _ _ _ coherent course => coherent.conduct (respond_conduct course)) coherent

theorem coherent_history {σ : Type} (r : Surroundings σ) (config : Config)
    (compiler : PatternCompiler) (calls : List Call) (s : σ) :
    (History.of r calls { config, compiler } s).converter.Coherent ∧
      ∀ e ∈ (History.of r calls { config, compiler } s).exchanges,
        e.before.Coherent ∧ History.Genuine e :=
  (coherent_initial config compiler).linked (History.of_linked r calls _ s)

/-- In every history the job is coherent, no move that goes back is ever noted, and a step of an
active job never finds its tool missing. -/
theorem job_coherent_in_history {σ : Type} (r : Surroundings σ) (config : Config)
    (compiler : PatternCompiler) (calls : List Call) (s : σ) :
    let h := History.of r calls { config, compiler } s
    (∀ job, h.converter.job = some job → job.Coherent) ∧
    (∀ before after, .noted (.illegalTransition before after) ∉ h.events) ∧
    (∀ job, h.converter.job = some job → job.state.isTerminal = false →
      ∀ {τ : Type} (r' : Surroundings τ) (s' : τ) (config' : Config) (state : JobState),
        ((job.step config').perform r' s').value.2 ≠ some (.noTool state)) := by
  intro h
  obtain ⟨last, each⟩ := coherent_history r config compiler calls s
  refine ⟨last, ?_, ?_⟩
  · intro before after noted
    obtain ⟨e, he, inside⟩ := List.mem_flatMap.mp noted
    exact (respond_conduct (each e he).2).forwardOnly before after inside
  · intro job current active τ r' s' config' state missing
    have course := (job.step config').perform_course r' s'
    have move := step_course active course
    rw [missing] at move
    exact (last job current).fault_ne_noTool active move state rfl

end Converter

end SlideConverter

import SlideConverter.Conversion.Completion
import SlideConverter.Proofs.Dialogue
import SlideConverter.Proofs.Path

/-!
# What a job can do

One step of a job, said once for all answers: each constructor of `Job.Move` is one way in
which a step can go, with everything that is asked on that way, the job as the step leaves
it, and the fault if there is one. `Job.Abort` says the same of giving a job up. Whatever
the converter does with a job is a chain of such changes, with nothing in between but
notes, the clock and sleep (`Job.Chain`).
-/

namespace SlideConverter

theorem course_ask_bind {α : Type} {q : Question} {k : q.Answer → Act α} {value : α}
    {events : List ActEvent} : (ask q >>= k).Course events value ↔
      ∃ answer rest, events = .asked q answer :: rest ∧ (k answer).Course rest value :=
  Iff.rfl

theorem course_warn_bind {α : Type} {w : Warning} {k : Unit → Act α} {value : α}
    {events : List ActEvent} : (warn w >>= k).Course events value ↔
      ∃ rest, events = .noted w :: rest ∧ (k ()).Course rest value :=
  Iff.rfl

namespace Job

variable {config : Config} {job job' : Job} {events : List ActEvent} {fault : Option Fault}

/-- The job in another state, and nothing else changed. -/
def inState (job : Job) (state : JobState) : Job := { job with state }

theorem advance_forward {next : JobState} (forward : job.state.rank < next.rank) :
    job.advance next = pure (job.inState next) := by
  rw [advance, if_neg (by omega)]
  rfl

theorem course_advance_bind (job : Job) {α : Type} {next : JobState} {k : Job → Act α} {value : α}
    (forward : job.state.rank < next.rank) : (job.advance next >>= k).Course events value ↔
      (k (job.inState next)).Course events value := by
  rw [advance_forward forward]
  rfl

/-! ## Starting a tool -/

inductive Launch (job : Job) (invocation : Invocation) (next : JobState) :
    List ActEvent → Job → Option Fault → Prop
  | refused (cause : ErrorChain) :
    Launch job invocation next [.asked (.launch invocation) (.error cause)] job
      (some (.launchRefused cause))
  | started (process : ToolProcess) (time : Duration) :
    Launch job invocation next
      [.asked (.launch invocation) (.ok process), .asked .clock time]
      ((job.hold invocation process time).inState next) none

theorem launch_course {invocation : Invocation} {next : JobState}
    (forward : job.state.rank < next.rank)
    (course : (job.launch invocation next).Course events (job', fault)) :
    Launch job invocation next events job' fault := by
  obtain ⟨answer, rest, rfl, answered⟩ := course_ask_bind.mp course
  cases answer with
  | error cause =>
    obtain ⟨rfl, same⟩ := Dialogue.course_pure.mp answered
    cases same
    exact .refused cause
  | ok process =>
    obtain ⟨time, rest, rfl, timed⟩ := course_ask_bind.mp answered
    obtain ⟨rfl, same⟩ := (course_advance_bind (job.hold invocation process time) forward).mp timed
    cases same
    exact .started process time

/-! ## After a tool has ended -/

/-- No page-description file that is listed comes before this one. -/
structure IsLeast (options : PipelineOptions) (entries : List Path) (found : Path) : Prop where
  listed : found ∈ entries
  intermediate : options.isIntermediate found = true
  le : ∀ other ∈ entries, options.isIntermediate other = true → found.le other = true

theorem leastIntermediate_eq_some {options : PipelineOptions} {entries : List Path} {found : Path}
    (least : leastIntermediate options entries = some found) : IsLeast options entries found := by
  have sorted : ((entries.filter options.isIntermediate).mergeSort Path.le).Pairwise
      fun p q => p.le q = true := by
    apply List.pairwise_mergeSort
    · exact fun _ _ _ => Path.le_trans
    · intro p q
      simpa using Path.le_total p q
  rw [leastIntermediate] at least
  obtain ⟨rest, split⟩ := List.head?_eq_some_iff.mp least
  have kept := List.mem_filter.mp (List.mem_mergeSort.mp (List.mem_of_mem_head? least))
  refine ⟨kept.1, kept.2, ?_⟩
  intro other there intermediate
  have among : other ∈ (entries.filter options.isIntermediate).mergeSort Path.le :=
    List.mem_mergeSort.mpr (List.mem_filter.mpr ⟨there, intermediate⟩)
  rw [split] at sorted among
  rcases List.mem_cons.mp among with rfl | later
  · exact Path.le_refl other
  · exact List.rel_of_pairwise_cons sorted later

inductive Rasterize (config : Config) (job : Job) :
    List ActEvent → Job → Option Fault → Prop
  | listingFailed (cause : ErrorChain) :
    Rasterize config job [.asked (.listDir job.workDir) (.error cause)] job
      (some (.listingFailed cause))
  | missing (entries : List Path) (absent : leastIntermediate config.pipeline entries = none) :
    Rasterize config job [.asked (.listDir job.workDir) (.ok entries)] job
      (some (.intermediateMissing config.pipeline.intermediateExtension job.workDir))
  | found (entries : List Path) (path : Path) {events : List ActEvent} {job' : Job}
      {fault : Option Fault} (least : leastIntermediate config.pipeline entries = some path)
      (launch : Launch { job with intermediate := some path } (.raster config path job.workDir)
        .convertingToImages events job' fault) :
    Rasterize config job (.asked (.listDir job.workDir) (.ok entries) :: events) job' fault

theorem rasterize_course (state : job.state = .convertingToIntermediate)
    (course : (job.rasterize config).Course events (job', fault)) :
    Rasterize config job events job' fault := by
  obtain ⟨answer, rest, rfl, answered⟩ := course_ask_bind.mp course
  cases answer with
  | error cause =>
    obtain ⟨rfl, same⟩ := Dialogue.course_pure.mp answered
    cases same
    exact .listingFailed cause
  | ok entries =>
    cases least : leastIntermediate config.pipeline entries with
    | none =>
      simp only [least] at answered
      obtain ⟨rfl, same⟩ := Dialogue.course_pure.mp answered
      cases same
      exact .missing entries least
    | some path =>
      simp only [least] at answered
      refine .found entries path least (launch_course ?_ answered)
      simp [state, JobState.rank]

inductive Finish (config : Config) (job : Job) : List ActEvent → Job → Option Fault → Prop
  | kept (nothing : config.pipeline.keepIntermediate = true ∨ job.intermediate = none) :
    Finish config job [] (job.inState .finished) none
  | removed (path : Path) (discards : config.pipeline.keepIntermediate = false)
      (known : job.intermediate = some path) :
    Finish config job [.asked (.removeFile path) (.ok ())]
      (inState { job with intermediate := none } .finished) none
  | removalFailed (path : Path) (cause : ErrorChain)
      (discards : config.pipeline.keepIntermediate = false)
      (known : job.intermediate = some path) :
    Finish config job [.asked (.removeFile path) (.error cause)] { job with intermediate := none }
      (some (.removalFailed cause))

theorem finish_course (state : job.state = .convertingToImages)
    (course : (job.finish config).Course events (job', fault)) :
    Finish config job events job' fault := by
  have forward : job.state.rank < JobState.finished.rank := by simp [state, JobState.rank]
  rw [finish] at course
  split at course
  · rename_i keeps
    obtain ⟨rfl, same⟩ := (course_advance_bind job forward).mp course
    cases same
    exact .kept (.inl keeps)
  · rename_i discards
    cases known : job.intermediate with
    | none =>
      simp only [known] at course
      obtain ⟨rfl, same⟩ := (course_advance_bind job forward).mp course
      cases same
      exact .kept (.inr known)
    | some path =>
      simp only [known] at course
      obtain ⟨answer, rest, rfl, answered⟩ := course_ask_bind.mp course
      cases answer with
      | error cause =>
        obtain ⟨rfl, same⟩ := Dialogue.course_pure.mp answered
        cases same
        exact .removalFailed path cause (by simpa using discards) known
      | ok done =>
        obtain ⟨rfl, same⟩ :=
          (course_advance_bind { job with intermediate := none } forward).mp answered
        cases same
        exact .removed path (by simpa using discards) known

/-! ## One step -/

theorem afterExit_converted {program : String} {exit : ToolExit}
    (state : job.state = .convertingToIntermediate) (good : exit.success = true) :
    job.afterExit config program exit = job.rasterize config := by
  simp [afterExit, state, good]

theorem afterExit_rasterized {program : String} {exit : ToolExit}
    (state : job.state = .convertingToImages) (good : exit.success = true) :
    job.afterExit config program exit = job.finish config := by
  simp [afterExit, state, good]

/-- The tool of a job is seen to have ended. -/
def exitEvents (tool : RunningTool) (exit : ToolExit) (time : Duration) : List ActEvent :=
  [.asked (.tryWait tool.process) (.ok (some exit)), .asked .clock time]

inductive Move (config : Config) (job : Job) : List ActEvent → Job → Option Fault → Prop
  | office {events : List ActEvent} {job' : Job} {fault : Option Fault}
      (state : job.state = .init) (plain : job.intermediate = none)
      (launch : Launch job (.office config job.source job.workDir) .convertingToIntermediate
        events job' fault) :
    Move config job events job' fault
  | raster (path : Path) {events : List ActEvent} {job' : Job} {fault : Option Fault}
      (state : job.state = .init) (staged : job.intermediate = some path)
      (launch : Launch job (.raster config path job.workDir) .convertingToImages
        events job' fault) :
    Move config job events job' fault
  | noTool (state : job.state ≠ .init) (free : job.running = none) :
    Move config job [] job (some (.noTool job.state))
  | waitRefused (tool : RunningTool) (cause : ErrorChain) (state : job.state ≠ .init)
      (held : job.running = some tool) :
    Move config job [.asked (.tryWait tool.process) (.error cause)] job (some (.waitRefused cause))
  | atWork (tool : RunningTool) (state : job.state ≠ .init) (held : job.running = some tool) :
    Move config job [.asked (.tryWait tool.process) (.ok none)] job none
  | badExit (tool : RunningTool) (exit : ToolExit) (time : Duration) (state : job.state ≠ .init)
      (held : job.running = some tool) (bad : exit.success = false) :
    Move config job (exitEvents tool exit time) (job.release exit (tool.elapsedMs time))
      (some (.badExit tool.program exit job.source))
  | converted (tool : RunningTool) (exit : ToolExit) (time : Duration) {events : List ActEvent}
      {job' : Job} {fault : Option Fault} (state : job.state = .convertingToIntermediate)
      (held : job.running = some tool) (good : exit.success = true)
      (rest : Rasterize config (job.release exit (tool.elapsedMs time)) events job' fault) :
    Move config job (exitEvents tool exit time ++ events) job' fault
  | rasterized (tool : RunningTool) (exit : ToolExit) (time : Duration) {events : List ActEvent}
      {job' : Job} {fault : Option Fault} (state : job.state = .convertingToImages)
      (held : job.running = some tool) (good : exit.success = true)
      (rest : Finish config (job.release exit (tool.elapsedMs time)) events job' fault) :
    Move config job (exitEvents tool exit time ++ events) job' fault

theorem step_course (active : job.state.isTerminal = false)
    (course : (job.step config).Course events (job', fault)) :
    Move config job events job' fault := by
  rw [step] at course
  split at course
  · rename_i state
    cases staged : job.intermediate with
    | none =>
      simp only [staged] at course
      exact .office state staged (launch_course (by simp [state, JobState.rank]) course)
    | some path =>
      simp only [staged] at course
      exact .raster path state staged (launch_course (by simp [state, JobState.rank]) course)
  · rename_i state
    cases held : job.running with
    | none =>
      simp only [held] at course
      obtain ⟨rfl, same⟩ := Dialogue.course_pure.mp course
      cases same
      exact .noTool state held
    | some tool =>
      simp only [held] at course
      obtain ⟨answer, rest, rfl, answered⟩ := course_ask_bind.mp course
      match answer with
      | .error cause =>
        obtain ⟨rfl, same⟩ := Dialogue.course_pure.mp answered
        cases same
        exact .waitRefused tool cause state held
      | .ok none =>
        obtain ⟨rfl, same⟩ := Dialogue.course_pure.mp answered
        cases same
        exact .atWork tool state held
      | .ok (some exit) =>
        obtain ⟨time, rest, rfl, timed⟩ := course_ask_bind.mp answered
        replace timed : ((job.release exit (tool.elapsedMs time)).afterExit config tool.program
          exit).Course rest (job', fault) := timed
        cases good : exit.success with
        | false =>
          simp only [afterExit, good] at timed
          obtain ⟨rfl, same⟩ := Dialogue.course_pure.mp timed
          cases same
          exact .badExit tool exit time state held good
        | true =>
          cases now : job.state with
          | init => exact absurd now state
          | convertingToIntermediate =>
            rw [afterExit_converted (by exact now) good] at timed
            exact .converted tool exit time now held good (rasterize_course now timed)
          | convertingToImages =>
            rw [afterExit_rasterized (by exact now) good] at timed
            exact .rasterized tool exit time now held good (finish_course now timed)
          | finished => simp [now, JobState.isTerminal] at active
          | cancelled => simp [now, JobState.isTerminal] at active
          | failed failure => simp [now, JobState.isTerminal] at active

/-- What is asked in a step. -/
inductive Working : ActEvent → Prop
  | launch (invocation : Invocation) (answer : Reply ToolProcess) :
    Working (.asked (.launch invocation) answer)
  | wait (process : ToolProcess) (answer : Reply (Option ToolExit)) :
    Working (.asked (.tryWait process) answer)
  | clock (time : Duration) : Working (.asked .clock time)
  | list (path : Path) (answer : Reply (List Path)) : Working (.asked (.listDir path) answer)
  | discard (path : Path) (answer : Reply Unit) : Working (.asked (.removeFile path) answer)

theorem Launch.working {invocation : Invocation} {next : JobState}
    (launch : Launch job invocation next events job' fault) : ∀ e ∈ events, Working e := by
  cases launch with
  | refused cause => simp [Working.launch]
  | started process time => simp [Working.launch, Working.clock]

theorem Move.working (move : Move config job events job' fault) : ∀ e ∈ events, Working e := by
  have exited : ∀ tool exit time, ∀ e ∈ exitEvents tool exit time, Working e := by
    simp [exitEvents, Working.wait, Working.clock]
  cases move with
  | office _ _ launch => exact launch.working
  | raster _ _ _ launch => exact launch.working
  | noTool => simp
  | waitRefused | atWork => simp [Working.wait]
  | badExit => exact exited _ _ _
  | converted tool exit time _ _ _ rest =>
    refine List.forall_mem_append.mpr ⟨exited _ _ _, ?_⟩
    cases rest with
    | listingFailed | missing => simp [Working.list]
    | found _ _ _ launch => exact List.forall_mem_cons.mpr ⟨.list _ _, launch.working⟩
  | rasterized tool exit time _ _ _ rest =>
    refine List.forall_mem_append.mpr ⟨exited _ _ _, ?_⟩
    cases rest with
    | kept => simp
    | removed | removalFailed => simp [Working.discard]

/-! ## Giving up -/

inductive Kill (job : Job) : List ActEvent → Job → Prop
  | free (none : job.running = none) : Kill job [] job
  | killed (tool : RunningTool) (time : Duration) (held : job.running = some tool) :
    Kill job [.asked (.kill tool.process) (.ok ()), .asked .clock time]
      (job.dismiss (tool.elapsedMs time))
  | refused (tool : RunningTool) (cause : ErrorChain) (time : Duration)
      (held : job.running = some tool) :
    Kill job [.asked (.kill tool.process) (.error cause),
      .noted (.killFailed job.handle tool.program cause), .asked .clock time]
      (job.dismiss (tool.elapsedMs time))

theorem kill_course (course : job.killTool.Course events job') : Kill job events job' := by
  rw [killTool] at course
  cases held : job.running with
  | none =>
    simp only [held] at course
    obtain ⟨rfl, rfl⟩ := Dialogue.course_pure.mp course
    exact .free held
  | some tool =>
    simp only [held] at course
    obtain ⟨answer, rest, rfl, answered⟩ := course_ask_bind.mp course
    cases answer with
    | error cause =>
      obtain ⟨rest, rfl, noted⟩ := course_warn_bind.mp answered
      obtain ⟨time, rest, rfl, timed⟩ := course_ask_bind.mp noted
      obtain ⟨rfl, rfl⟩ := Dialogue.course_pure.mp timed
      exact .refused tool cause time held
    | ok done =>
      obtain ⟨time, rest, rfl, timed⟩ := course_ask_bind.mp answered
      obtain ⟨rfl, rfl⟩ := Dialogue.course_pure.mp timed
      exact .killed tool time held

inductive Cleanup (workDir : Path) : List ActEvent → Prop
  | absent : Cleanup workDir [.asked (.pathExists workDir) false]
  | removed : Cleanup workDir
      [.asked (.pathExists workDir) true, .asked (.removeDirAll workDir) (.ok ())]
  | refused (cause : ErrorChain) : Cleanup workDir
      [.asked (.pathExists workDir) true, .asked (.removeDirAll workDir) (.error cause),
        .noted (.cleanupFailed workDir cause)]

theorem cleanup_course {workDir : Path} {value : Unit}
    (course : (removeWorkDir workDir).Course events value) : Cleanup workDir events := by
  obtain ⟨there, rest, rfl, answered⟩ := course_ask_bind.mp course
  cases there with
  | false =>
    obtain ⟨rfl, -⟩ := Dialogue.course_pure.mp answered
    exact .absent
  | true =>
    obtain ⟨answer, rest, rfl, removed⟩ := course_ask_bind.mp answered
    cases answer with
    | error cause =>
      obtain ⟨rest, rfl, rfl, -⟩ := removed
      exact .refused cause
    | ok done =>
      obtain ⟨rfl, -⟩ := Dialogue.course_pure.mp removed
      exact .removed

/-- The tool at work, if there is one, is killed; then the working directory is removed. -/
inductive Abort (job : Job) (last : JobState) : List ActEvent → Job → Prop
  | mk {killing cleaning : List ActEvent} {freed : Job} (kill : Kill job killing freed)
      (cleanup : Cleanup job.workDir cleaning) :
    Abort job last (killing ++ cleaning) (freed.inState last)

theorem Kill.keeps (kill : Kill job events job') :
    job'.workDir = job.workDir ∧ job'.state = job.state ∧ job'.handle = job.handle := by
  cases kill <;> exact ⟨rfl, rfl, rfl⟩

theorem abort_course {last : JobState} (forward : job.state.rank < last.rank)
    (course : (job.abort last).Course events job') : Abort job last events job' := by
  obtain ⟨killing, freed, rest, rfl, killed, course⟩ := Dialogue.course_bind.mp course
  obtain ⟨cleaning, done, rest, rfl, cleaned, ended⟩ := Dialogue.course_bind.mp course
  have kill := kill_course killed
  obtain ⟨place, state, -⟩ := kill.keeps
  rw [advance_forward (by rw [state]; exact forward)] at ended
  obtain ⟨rfl, rfl⟩ := Dialogue.course_pure.mp ended
  rw [List.append_nil]
  rw [place] at cleaned
  exact .mk kill (cleanup_course cleaned)

end Job

end SlideConverter

import SlideConverter.Proofs.Conversion.Progress

/-!
# One look at a job

A poll waits for a tool at most once and starts at most one, and it takes the job along at most
one edge. What the surroundings answer in it tells everything: whether the job stays where it is,
and whether it fails, of what kind and for what reason.
-/

namespace SlideConverter

/-- A document, an office tool that does its work, and a disk that lists nothing. -/
def Rehearsal.unlistable : Rehearsal.World where
  disk :=
    { entries := [{ path := .ofString "talk.odp", isDir := false }]
      failing := [(.listDir, ⟨["read_dir work", "gone"]⟩)] }
  script := [{ waits := [.exit 0] }]

/-- A wait for a tool, and what came of it. -/
@[simp] def wait? : ActEvent → Option (ToolProcess × Reply (Option ToolExit))
  | .asked (.tryWait process) answer => some (process, answer)
  | _ => none

def waits (events : List ActEvent) : List (ToolProcess × Reply (Option ToolExit)) :=
  events.filterMap wait?

@[simp] theorem waits_nil : waits [] = [] := rfl

@[simp] theorem waits_cons (event : ActEvent) (events : List ActEvent) :
    waits (event :: events) = (wait? event).toList ++ waits events := by
  cases waited : wait? event with
  | none => exact List.filterMap_cons_none waited
  | some wait => exact List.filterMap_cons_some waited

@[simp] theorem waits_append (first second : List ActEvent) :
    waits (first ++ second) = waits first ++ waits second :=
  List.filterMap_append

theorem waits_of_restful {events : List ActEvent} (restful : Restful events) :
    waits events = [] := by
  refine List.filterMap_eq_nil_iff.mpr ?_
  intro e there
  cases e with
  | asked question answer =>
    cases question with
    | tryWait process => exact absurd there (restful.waits process answer)
    | _ => rfl
  | noted => rfl

/-- The edges along which one look may take a job. -/
inductive JobState.Edge : JobState → JobState → Prop
  | office : Edge .init .convertingToIntermediate
  | raster : Edge .init .convertingToImages
  | handover : Edge .convertingToIntermediate .convertingToImages
  | finish : Edge .convertingToImages .finished
  | fail {state : JobState} (active : state.isTerminal = false) (failure : Failure) :
    Edge state (.failed failure)

theorem JobState.Edge.ne {before after : JobState} (edge : Edge before after) :
    after ≠ before := by
  cases edge with
  | fail active failure =>
    rintro rfl
    cases active
  | office | raster | handover | finish => simp

namespace Job

/-- The working directory cannot be listed, or the page-description file cannot be removed. -/
inductive DiskTrouble (job : Job) (cause : ErrorChain) : ActEvent → Prop
  | unlistable : DiskTrouble job cause (.asked (.listDir job.workDir) (.error cause))
  | unremovable (path : Path) (known : job.intermediate = some path) :
    DiskTrouble job cause (.asked (.removeFile path) (.error cause))

/-- A tool cannot be started or waited for, has ended badly, be it by a signal, or has left no
page-description file. -/
inductive ToolTrouble (options : PipelineOptions) (job : Job) : ActEvent → Prop
  | launchRefused (invocation : Invocation) (cause : ErrorChain) :
    ToolTrouble options job (.asked (.launch invocation) (.error cause))
  | waitRefused (process : ToolProcess) (cause : ErrorChain) :
    ToolTrouble options job (.asked (.tryWait process) (.error cause))
  | badExit (process : ToolProcess) (exit : ToolExit) (bad : exit.code ≠ some 0) :
    ToolTrouble options job (.asked (.tryWait process) (.ok (some exit)))
  | missing (entries : List Path)
      (absent : ∀ entry ∈ entries, options.isIntermediate entry = false) :
    ToolTrouble options job (.asked (.listDir job.workDir) (.ok entries))

/-- The tool that the job holds is seen to be at work. -/
def SeenAtWork (job : Job) (events : List ActEvent) : Prop :=
  ∃ tool, job.running = some tool ∧ .asked (.tryWait tool.process) (.ok none) ∈ events

variable {config : Config} {options : PipelineOptions} {job job' : Job} {cause : ErrorChain}
  {fault : Option Fault} {events : List ActEvent} {reason : String} {path : Path}
  {entries : List Path} {process : ToolProcess}

/-! ## Which answers are trouble -/

@[simp] theorem diskTrouble_list {answer : Reply (List Path)} :
    job.DiskTrouble cause (.asked (.listDir path) answer) ↔
      path = job.workDir ∧ answer = .error cause := by
  constructor
  · rintro ⟨⟩
    exact ⟨rfl, rfl⟩
  · rintro ⟨rfl, rfl⟩
    exact .unlistable

@[simp] theorem diskTrouble_remove {answer : Reply Unit} :
    job.DiskTrouble cause (.asked (.removeFile path) answer) ↔
      job.intermediate = some path ∧ answer = .error cause := by
  constructor
  · rintro (_ | ⟨_, known⟩)
    exact ⟨known, rfl⟩
  · rintro ⟨known, rfl⟩
    exact .unremovable path known

@[simp] theorem toolTrouble_launch {invocation : Invocation} {answer : Reply ToolProcess} :
    job.ToolTrouble options (.asked (.launch invocation) answer) ↔
      ∃ cause, answer = .error cause := by
  constructor
  · rintro ⟨_, cause⟩
    exact ⟨cause, rfl⟩
  · rintro ⟨cause, rfl⟩
    exact .launchRefused invocation cause

@[simp] theorem toolTrouble_wait {answer : Reply (Option ToolExit)} :
    job.ToolTrouble options (.asked (.tryWait process) answer) ↔
      (∃ cause, answer = .error cause) ∨ ∃ exit, answer = .ok (some exit) ∧ exit.code ≠ some 0 := by
  constructor
  · rintro (_ | ⟨_, cause⟩ | ⟨_, exit, bad⟩)
    · exact .inl ⟨cause, rfl⟩
    · exact .inr ⟨exit, rfl, bad⟩
  · rintro (⟨cause, rfl⟩ | ⟨exit, rfl, bad⟩)
    · exact .waitRefused process cause
    · exact .badExit process exit bad

@[simp] theorem toolTrouble_list {answer : Reply (List Path)} :
    job.ToolTrouble options (.asked (.listDir path) answer) ↔ path = job.workDir ∧
      ∃ entries, answer = .ok entries ∧
        ∀ entry ∈ entries, options.isIntermediate entry = false := by
  constructor
  · rintro ⟨⟩
    rename_i entries absent
    exact ⟨rfl, entries, rfl, absent⟩
  · rintro ⟨rfl, entries, rfl, absent⟩
    exact .missing entries absent

@[simp] theorem not_diskTrouble_wait {answer : Reply (Option ToolExit)} :
    ¬ job.DiskTrouble cause (.asked (.tryWait process) answer) := by
  rintro ⟨⟩

@[simp] theorem not_diskTrouble_launch {invocation : Invocation} {answer : Reply ToolProcess} :
    ¬ job.DiskTrouble cause (.asked (.launch invocation) answer) := by
  rintro ⟨⟩

@[simp] theorem not_diskTrouble_clock {time : Duration} :
    ¬ job.DiskTrouble cause (.asked .clock time) := by
  rintro ⟨⟩

@[simp] theorem not_toolTrouble_remove {answer : Reply Unit} :
    ¬ job.ToolTrouble options (.asked (.removeFile path) answer) := by
  rintro ⟨⟩

@[simp] theorem not_toolTrouble_clock {time : Duration} :
    ¬ job.ToolTrouble options (.asked .clock time) := by
  rintro ⟨⟩

theorem Abort.untroubled {last : JobState} {faulty : Job}
    (abort : Abort faulty last events job') :
    ∀ e ∈ events, (¬ ∃ cause, job.DiskTrouble cause e) ∧ ¬ job.ToolTrouble options e := by
  obtain ⟨kill, cleanup⟩ := abort
  intro e there
  constructor
  · rintro ⟨cause, trouble⟩
    rcases List.mem_append.mp there with there | there
    · cases trouble <;> cases kill <;> simp at there
    · cases trouble <;> cases cleanup <;> simp at there
  · intro trouble
    rcases List.mem_append.mp there with there | there
    · cases trouble <;> cases kill <;> simp at there
    · cases trouble <;> cases cleanup <;> simp at there

/-! ## One step -/

/-- What the answers of a step make of it: they are no trouble, or the disk is, or a tool is. -/
inductive Verdict (options : PipelineOptions) (job : Job) (events : List ActEvent) :
    Option Fault → Prop
  | fine (diskless : ∀ cause, ¬ ∃ e ∈ events, job.DiskTrouble cause e)
      (toolless : ¬ ∃ e ∈ events, job.ToolTrouble options e) : Verdict options job events none
  | disk (fault : Fault) (cause : ErrorChain) (failure : fault.failure = ⟨.filesystem, cause.text⟩)
      (only : ∀ other, (∃ e ∈ events, job.DiskTrouble other e) ↔ other = cause)
      (toolless : ¬ ∃ e ∈ events, job.ToolTrouble options e) :
    Verdict options job events (some fault)
  | tool (fault : Fault) (kind : fault.kind = .toolFailure)
      (diskless : ∀ cause, ¬ ∃ e ∈ events, job.DiskTrouble cause e)
      (trouble : ∃ e ∈ events, job.ToolTrouble options e) : Verdict options job events (some fault)

/-- Where no more and no less trouble is met, the verdict is the same. -/
theorem Verdict.congr {more : List ActEvent} (verdict : Verdict options job events fault)
    (disk : ∀ cause, (∃ e ∈ more, job.DiskTrouble cause e) ↔ ∃ e ∈ events, job.DiskTrouble cause e)
    (tool : (∃ e ∈ more, job.ToolTrouble options e) ↔ ∃ e ∈ events, job.ToolTrouble options e) :
    Verdict options job more fault := by
  cases verdict with
  | fine diskless toolless =>
    exact .fine (fun cause => mt (disk cause).mp (diskless cause)) (mt tool.mp toolless)
  | disk f cause failure only toolless =>
    exact .disk f cause failure (fun other => (disk other).trans (only other)) (mt tool.mp toolless)
  | tool f kind diskless trouble =>
    exact .tool f kind (fun cause => mt (disk cause).mp (diskless cause)) (tool.mpr trouble)

theorem Launch.verdict {invocation : Invocation} {next : JobState} {before : Job}
    (launch : Launch before invocation next events job' fault) :
    Verdict options job events fault := by
  cases launch with
  | refused cause => exact .tool _ rfl (by simp) (by simp)
  | started process time => exact .fine (by simp) (by simp)

theorem Rasterize.verdict {freed : Job} (place : freed.workDir = job.workDir)
    (rest : Rasterize config freed events job' fault) :
    Verdict config.pipeline job events fault := by
  cases rest with
  | listingFailed cause => exact .disk _ cause rfl (by simp [place, eq_comm]) (by simp)
  | missing entries absent =>
    refine .tool _ rfl (by simp) ?_
    simpa [place] using absent_of_leastIntermediate absent
  | found entries path least launch =>
    have present := leastIntermediate_eq_some least
    have launched : Verdict config.pipeline job _ fault := launch.verdict
    apply launched.congr
    · simp
    · have some_there : ¬ ∀ entry ∈ entries, config.pipeline.isIntermediate entry = false := by
        intro absent
        simpa [absent path present.listed] using present.intermediate
      simp [some_there]

theorem Finish.verdict {freed : Job} (known : freed.intermediate = job.intermediate)
    (rest : Finish config freed events job' fault) : Verdict options job events fault := by
  cases rest with
  | kept => exact .fine (by simp) (by simp)
  | removed path => exact .fine (by simp) (by simp)
  | removalFailed path cause _ there =>
    rw [known] at there
    exact .disk _ cause rfl (by simp [there, eq_comm]) (by simp)

theorem Verdict.after_exit {tool : RunningTool} {exit : ToolExit} {time : Duration}
    (good : exit.success = true) (verdict : Verdict options job events fault) :
    Verdict options job (exitEvents tool exit time ++ events) fault := by
  have code : exit.code = some 0 := by simpa [ToolExit.success] using good
  apply verdict.congr
  · simp [exitEvents]
  · simp [exitEvents, code]

theorem Move.verdict (coherent : job.Coherent) (active : job.state.isTerminal = false)
    (move : Move config job events job' fault) : Verdict config.pipeline job events fault := by
  cases move with
  | office _ _ launch | raster _ _ _ launch => exact launch.verdict
  | noTool state free =>
    have stuck : Move config job [] job (some (.noTool job.state)) := .noTool state free
    exact absurd rfl (coherent.fault_ne_noTool active stuck _)
  | waitRefused tool cause => exact .tool _ rfl (by simp) (by simp)
  | atWork tool => exact .fine (by simp) (by simp)
  | badExit tool exit time _ _ bad =>
    have code : exit.code ≠ some 0 := by simpa [ToolExit.success] using bad
    exact .tool _ rfl (by simp [exitEvents]) (by simp [exitEvents, code])
  | converted tool exit time _ _ good rest =>
    have place : (job.release exit (tool.elapsedMs time)).workDir = job.workDir := rfl
    exact (rest.verdict place).after_exit good
  | rasterized tool exit time _ _ good rest =>
    have known : (job.release exit (tool.elapsedMs time)).intermediate = job.intermediate := rfl
    exact (rest.verdict known).after_exit good

/-- A step without a fault leaves an active job where it is, with its tool seen to be at work, or
takes it along an edge. -/
theorem Move.edge (move : Move config job events job' none) :
    job'.state = job.state ∧ job.SeenAtWork events ∨
      JobState.Edge job.state job'.state ∧ ¬ job.SeenAtWork events := by
  cases move with
  | office state _ launch =>
    cases launch
    rw [state]
    exact .inr ⟨.office, by simp [SeenAtWork]⟩
  | raster _ state _ launch =>
    cases launch
    rw [state]
    exact .inr ⟨.raster, by simp [SeenAtWork]⟩
  | atWork tool _ held => exact .inl ⟨rfl, tool, held, by simp⟩
  | converted tool exit time state _ _ rest =>
    cases rest with
    | found _ _ _ launch =>
      cases launch
      rw [state]
      exact .inr ⟨.handover, by simp [SeenAtWork, exitEvents]⟩
  | rasterized tool exit time state _ _ rest =>
    rw [state]
    cases rest with
    | kept | removed => exact .inr ⟨.finish, by simp [SeenAtWork, exitEvents]⟩

theorem Move.not_seenAtWork {f : Fault} (move : Move config job events job' (some f)) :
    ¬ job.SeenAtWork events := by
  cases move with
  | office _ _ launch | raster _ _ _ launch =>
    cases launch
    simp [SeenAtWork]
  | noTool | waitRefused => simp [SeenAtWork]
  | badExit => simp [SeenAtWork, exitEvents]
  | converted _ _ _ _ _ _ rest =>
    cases rest with
    | listingFailed | missing => simp [SeenAtWork, exitEvents]
    | found _ _ _ launch =>
      cases launch
      simp [SeenAtWork, exitEvents]
  | rasterized _ _ _ _ _ _ rest =>
    cases rest
    simp [SeenAtWork, exitEvents]

theorem Move.calls (move : Move config job events job' fault) :
    (waits events).length ≤ 1 ∧ (launches events).length ≤ 1 := by
  cases move with
  | office _ _ launch | raster _ _ _ launch => cases launch <;> simp
  | noTool | waitRefused | atWork | badExit => simp [exitEvents]
  | converted _ _ _ _ _ _ rest =>
    cases rest with
    | listingFailed | missing => simp [exitEvents]
    | found _ _ _ launch => cases launch <;> simp [exitEvents]
  | rasterized _ _ _ _ _ _ rest => cases rest <;> simp [exitEvents]

/-! ## One turn -/

/-- What is asked while a faulty job is given up says nothing of its fault. -/
theorem Abort.verdict {last : JobState} {faulty : Job} {first cleaning : List ActEvent}
    {warning : Warning} (abort : Abort faulty last cleaning job')
    (verdict : Verdict options job first fault) :
    Verdict options job (first ++ .noted warning :: cleaning) fault := by
  have later : ∀ e ∈ (.noted warning :: cleaning : List ActEvent),
      (¬ ∃ cause, job.DiskTrouble cause e) ∧ ¬ job.ToolTrouble options e := by
    refine List.forall_mem_cons.mpr ⟨⟨?_, ?_⟩, abort.untroubled⟩
    · rintro ⟨_, ⟨⟩⟩
    · rintro ⟨⟩
  apply verdict.congr
  · intro cause
    constructor
    · rintro ⟨e, there, trouble⟩
      rcases List.mem_append.mp there with before | after
      · exact ⟨e, before, trouble⟩
      · exact absurd ⟨cause, trouble⟩ (later e after).1
    · rintro ⟨e, there, trouble⟩
      exact ⟨e, List.mem_append_left _ there, trouble⟩
  · constructor
    · rintro ⟨e, there, trouble⟩
      rcases List.mem_append.mp there with before | after
      · exact ⟨e, before, trouble⟩
      · exact absurd trouble (later e after).2
    · rintro ⟨e, there, trouble⟩
      exact ⟨e, List.mem_append_left _ there, trouble⟩

theorem Turn.verdict (coherent : job.Coherent) (active : job.state.isTerminal = false)
    (turn : Turn config job events job') : ∃ fault, Verdict config.pipeline job events fault ∧
      ∀ failure, job'.state = .failed failure ↔ fault.map Fault.failure = some failure := by
  cases turn with
  | moved move =>
    refine ⟨none, move.verdict coherent active, ?_⟩
    intro failure
    have kept := move.not_isGivenUp active
    constructor
    · intro failed
      simp [failed, JobState.isGivenUp] at kept
    · rintro ⟨⟩
  | failed fault move abort =>
    refine ⟨some fault, abort.verdict (move.verdict coherent active), ?_⟩
    obtain ⟨kill, cleanup⟩ := abort
    simp [inState]

theorem Turn.edge (active : job.state.isTerminal = false) (turn : Turn config job events job') :
    job'.state = job.state ∧ job.SeenAtWork events ∨
      JobState.Edge job.state job'.state ∧ ¬ job.SeenAtWork events := by
  cases turn with
  | moved move => exact move.edge
  | failed fault move abort =>
    have unseen := move.not_seenAtWork
    have quiet := abort.restful.waits
    obtain ⟨kill, cleanup⟩ := abort
    refine .inr ⟨.fail active fault.failure, ?_⟩
    rintro ⟨tool, held, there⟩
    rcases List.mem_append.mp there with before | after
    · exact unseen ⟨tool, held, before⟩
    · rcases List.mem_cons.mp after with noted | after
      · cases noted
      · exact quiet _ _ after

theorem Turn.calls (turn : Turn config job events job') :
    (waits events).length ≤ 1 ∧ (launches events).length ≤ 1 := by
  cases turn with
  | moved move => exact move.calls
  | failed fault move abort =>
    simpa [abort.restful.starts, waits_of_restful abort.restful] using move.calls

theorem Turn.state_eq_iff (active : job.state.isTerminal = false)
    (turn : Turn config job events job') : job'.state = job.state ↔ job.SeenAtWork events := by
  rcases turn.edge active with ⟨same, seen⟩ | ⟨edge, unseen⟩
  · simp [same, seen]
  · simp [edge.ne, unseen]

theorem Turn.filesystem_iff (coherent : job.Coherent) (active : job.state.isTerminal = false)
    (turn : Turn config job events job') : job'.state = .failed ⟨.filesystem, reason⟩ ↔
      ∃ cause, reason = cause.text ∧ ∃ e ∈ events, job.DiskTrouble cause e := by
  obtain ⟨fault, verdict, failed⟩ := turn.verdict coherent active
  rw [failed]
  cases verdict with
  | fine diskless => simpa using fun cause _ => by simpa using diskless cause
  | disk f cause failure only =>
    simp only [Option.map_some, Option.some.injEq, failure, Failure.mk.injEq, true_and, only]
    constructor
    · rintro rfl
      exact ⟨cause, rfl, rfl⟩
    · rintro ⟨_, rfl, rfl⟩
      rfl
  | tool f kind diskless =>
    have other : f.failure ≠ ⟨.filesystem, reason⟩ := by
      intro same
      have kind' := congrArg Failure.kind same
      rw [Fault.failure, kind] at kind'
      cases kind'
    simp only [Option.map_some, Option.some.injEq, other, false_iff]
    rintro ⟨cause, -, trouble⟩
    exact diskless cause trouble

theorem Turn.toolFailure_iff (coherent : job.Coherent) (active : job.state.isTerminal = false)
    (turn : Turn config job events job') : (∃ reason, job'.state = .failed ⟨.toolFailure, reason⟩) ↔
      ∃ e ∈ events, job.ToolTrouble config.pipeline e := by
  obtain ⟨fault, verdict, failed⟩ := turn.verdict coherent active
  simp only [failed]
  cases verdict with
  | fine _ toolless =>
    constructor
    · rintro ⟨_, ⟨⟩⟩
    · intro trouble
      exact absurd trouble toolless
  | disk f cause failure _ toolless =>
    constructor
    · rintro ⟨reason, same⟩
      simp [failure] at same
    · intro trouble
      exact absurd trouble toolless
  | tool f kind _ trouble =>
    have same : f.failure = ⟨.toolFailure, f.reason⟩ := by rw [Fault.failure, kind]
    exact iff_of_true ⟨f.reason, congrArg some same⟩ trouble

end Job

open Job

namespace Converter

/-- In every history, and whatever is answered, a poll of the current job says where the job is
after it, with at most one wait and at most one start of a tool. The job stays where it is, and it
does so while it is active just when its tool is seen to be at work, or it goes along one edge. It
fails because of the disk, with the cause as the reason, just when its directory could not be listed
or its page-description file not removed, and because of a tool just when a tool was in trouble. -/
theorem poll_unchanged_or_one_edge {σ τ : Type} (r : Surroundings σ) (config : Config)
    (compiler : PatternCompiler) (calls : List Call) (s : σ) (r' : Surroundings τ) (s' : τ)
    (job : Job)
    (current : (History.of r calls { config, compiler } s).converter.job = some job) :
    let c := (History.of r calls { config, compiler } s).converter
    let p := (c.poll job.handle).perform r' s'
    ∃ job', p.value = (.ok (.ofState job'.state), c.withJob job') ∧
      (waits p.events).length ≤ 1 ∧ (launches p.events).length ≤ 1 ∧
      (job'.state = job.state ∨ JobState.Edge job.state job'.state) ∧
      (job.state.isTerminal = true → job' = job ∧ p.events = []) ∧
      (job.state.isTerminal = false →
        (job'.state = job.state ↔ job.SeenAtWork p.events) ∧
        (∀ reason, job'.state = .failed ⟨.filesystem, reason⟩ ↔
          ∃ cause, reason = cause.text ∧ ∃ e ∈ p.events, job.DiskTrouble cause e) ∧
        ((∃ reason, job'.state = .failed ⟨.toolFailure, reason⟩) ↔
          ∃ e ∈ p.events, job.ToolTrouble config.pipeline e)) := by
  intro c p
  have configured : c.config = config := Linked.config_eq (History.of_linked r calls _ s)
  have coherent : job.Coherent := (coherent_history r config compiler calls s).1 job current
  have known : c.find? job.handle = some job := find?_eq_some.mpr ⟨current, rfl⟩
  have poll : Poll c job.handle p.events p.value.1 p.value.2 :=
    poll_course ((c.poll job.handle).perform_course r' s')
  cases ended : job.state.isTerminal with
  | true =>
    obtain ⟨same, silent, said⟩ := poll.of_terminal current ended
    rw [if_pos rfl] at said
    refine ⟨job, Prod.ext said (same.trans (withJob_self current).symm), by simp [silent],
      by simp [silent], .inl rfl, fun _ => ⟨rfl, silent⟩, nofun⟩
  | false =>
    obtain ⟨job', said, same, -, turn⟩ := poll.of_active known ended
    rw [configured] at turn
    refine ⟨job', Prod.ext said same, turn.calls.1, turn.calls.2, ?_, nofun, fun _ => ?_⟩
    · rcases turn.edge ended with ⟨same, -⟩ | ⟨edge, -⟩
      · exact .inl same
      · exact .inr edge
    · exact ⟨turn.state_eq_iff ended, fun _ => turn.filesystem_iff coherent ended,
        turn.toolFailure_iff coherent ended⟩

/-- A rehearsal in which the office tool has ended well and its directory cannot be listed: the
second poll ends the job with the cause of that, and no tool is to blame. -/
theorem rehearsed_poll_fails_without_listing :
    let h := History.of Rehearsal.surroundings
      [.start (.ofString "talk.odp") (.ofString "work"), .poll ⟨1⟩] { config := {} }
      Rehearsal.unlistable
    let p := (h.converter.poll ⟨1⟩).perform Rehearsal.surroundings h.world
    ∃ job, h.converter.job = some job ∧ job.state = .convertingToIntermediate ∧
      p.value.1 = .ok (.failed ⟨.filesystem, "read_dir work: gone"⟩) ∧
      (waits p.events).length = 1 ∧ (launches p.events).length ≤ 1 ∧
      (∃ cause, "read_dir work: gone" = cause.text ∧ ∃ e ∈ p.events, job.DiskTrouble cause e) ∧
      ¬ ∃ e ∈ p.events, job.ToolTrouble {} e := by
  intro h p
  have state : h.converter.job.map (fun job => (job.handle, job.state)) =
      some (⟨1⟩, .convertingToIntermediate) := by decide +kernel
  have said : p.value.1 = .ok (.failed ⟨.filesystem, "read_dir work: gone"⟩) := by decide +kernel
  have waited : (waits p.events).length = 1 := by decide +kernel
  obtain ⟨job, current, here⟩ := Option.map_eq_some_iff.mp state
  obtain ⟨handle, office⟩ := Prod.mk.inj here
  have going : job.state.isTerminal = false := by
    rw [office]
    rfl
  obtain ⟨job', value, -, started, -, -, active⟩ := poll_unchanged_or_one_edge
    Rehearsal.surroundings {} .standard
    [.start (.ofString "talk.odp") (.ofString "work"), .poll ⟨1⟩]
    Rehearsal.unlistable Rehearsal.surroundings h.world job current
  rw [handle] at value started active
  obtain ⟨-, filesystem, toolFailure⟩ := active going
  have failed : job'.state = .failed ⟨.filesystem, "read_dir work: gone"⟩ := by
    have result := (congrArg Prod.fst value).symm.trans said
    cases now : job'.state <;> simp_all [PollResult.ofState]
  refine ⟨job, current, office, said, waited, started, (filesystem _).mp failed, ?_⟩
  rw [← toolFailure]
  rintro ⟨reason, other⟩
  rw [failed] at other
  cases other

end Converter

end SlideConverter

import SlideConverter.Proofs.Conversion.Finality

/-!
# The order of tools

A document goes through the office tool and then through the raster tool, a page-description file
through the raster tool alone, and no tool is started twice for a job. The raster tool gets what
the office tool has left, in the very poll in which that tool is seen to have ended well, or the
staged copy. After any setback nothing is started for the job again.
-/

namespace SlideConverter

/-- A start of a tool, and what came of it. -/
@[simp] def launch? : ActEvent → Option (Invocation × Reply ToolProcess)
  | .asked (.launch invocation) answer => some (invocation, answer)
  | _ => none

def launches (events : List ActEvent) : List (Invocation × Reply ToolProcess) :=
  events.filterMap launch?

/-- Calls in which a job is looked at. -/
def Call.polls : Call → Bool
  | .poll _ | .run _ _ _ _ => true
  | _ => false

/-- What puts an end to the starting of tools for a job. A working directory is looked for only
where its job is given up, be it by a failure, a cancel, a deadline or a close. -/
inductive Setback (options : PipelineOptions) : ActEvent → Prop
  | launchRefused (invocation : Invocation) (cause : ErrorChain) :
    Setback options (.asked (.launch invocation) (.error cause))
  | waitRefused (process : ToolProcess) (cause : ErrorChain) :
    Setback options (.asked (.tryWait process) (.error cause))
  | badExit (process : ToolProcess) (exit : ToolExit) (bad : exit.success = false) :
    Setback options (.asked (.tryWait process) (.ok (some exit)))
  | unlistable (path : Path) (cause : ErrorChain) :
    Setback options (.asked (.listDir path) (.error cause))
  | missing (path : Path) (entries : List Path)
      (absent : ∀ entry ∈ entries, options.isIntermediate entry = false) :
    Setback options (.asked (.listDir path) (.ok entries))
  | killed (process : ToolProcess) (answer : Reply Unit) :
    Setback options (.asked (.kill process) answer)
  | givenUp (workDir : Path) (there : Bool) : Setback options (.asked (.pathExists workDir) there)

/-- Nothing is started after a setback. -/
def Orderly (options : PipelineOptions) (events : List ActEvent) : Prop :=
  events.Pairwise fun earlier later => Setback options earlier → launch? later = none

/-- The office tool is seen to have ended well, its directory is listed, and the raster tool is
started for the least page-description file in it, all in a row. -/
inductive Handover (config : Config) (workDir : Path) (process : ToolProcess) (found : Path)
    (answer : Reply ToolProcess) : List ActEvent → Prop
  | mk (before after : List ActEvent) (entries : List Path) (time : Duration)
      (least : Job.IsLeast config.pipeline entries found) :
    Handover config workDir process found answer
      (before ++ [.asked (.tryWait process) (.ok (some ⟨some 0⟩)), .asked .clock time,
        .asked (.listDir workDir) (.ok entries),
        .asked (.launch (.raster config found workDir)) answer] ++ after)

/-- The tools that may be started for a job, in this order. Where nothing is staged, the raster
tool takes over as `handed` says. -/
inductive Plan (config : Config) (source workDir : Path) (staged : Option Path)
    (handed : ToolProcess → Path → Reply ToolProcess → Prop) :
    List (Invocation × Reply ToolProcess) → Prop
  | nothing : Plan config source workDir staged handed []
  | copy (path : Path) (answer : Reply ToolProcess) (copied : staged = some path) :
    Plan config source workDir staged handed [(.raster config path workDir, answer)]
  | office (answer : Reply ToolProcess) (plain : staged = none) :
    Plan config source workDir staged handed [(.office config source workDir, answer)]
  | both (process : ToolProcess) (found : Path) (answer : Reply ToolProcess)
      (plain : staged = none) (handover : handed process found answer) :
    Plan config source workDir staged handed
      [(.office config source workDir, .ok process), (.raster config found workDir, answer)]

/-- A raster tool is started and then seen to have ended well. -/
def Rasterized (config : Config) (workDir : Path) (events : List ActEvent) : Prop :=
  ∃ path process first second, events = first ++ second ∧
    .asked (.launch (.raster config path workDir)) (.ok process) ∈ first ∧
    .asked (.tryWait process) (.ok (some ⟨some 0⟩)) ∈ second

variable {options : PipelineOptions} {config : Config} {source workDir found : Path}
  {staged : Option Path} {process : ToolProcess} {answer : Reply ToolProcess}
  {handed : ToolProcess → Path → Reply ToolProcess → Prop} {event : ActEvent}
  {past events first second : List ActEvent}

@[simp] theorem launches_nil : launches [] = [] := rfl

@[simp] theorem launches_cons (event : ActEvent) (events : List ActEvent) :
    launches (event :: events) = (launch? event).toList ++ launches events := by
  cases started : launch? event with
  | none => exact List.filterMap_cons_none started
  | some launch => exact List.filterMap_cons_some started

@[simp] theorem launches_append (first second : List ActEvent) :
    launches (first ++ second) = launches first ++ launches second :=
  List.filterMap_append

theorem launches_eq_nil : launches events = [] ↔ ∀ e ∈ events, launch? e = none :=
  List.filterMap_eq_nil_iff

theorem launches_of_toolCalls (untouched : toolCalls events = []) : launches events = [] := by
  refine launches_eq_nil.mpr ?_
  intro e there
  have uncalled := List.filterMap_eq_nil_iff.mp untouched e there
  cases e with
  | asked question answer => cases question <;> first | rfl | cases uncalled
  | noted => rfl

@[simp] theorem not_setback_clock (time : Duration) : ¬ Setback options (.asked .clock time) := by
  rintro ⟨⟩

@[simp] theorem not_setback_launched (invocation : Invocation) (process : ToolProcess) :
    ¬ Setback options (.asked (.launch invocation) (.ok process)) := by
  rintro ⟨⟩

theorem ToolExit.eq_of_success {exit : ToolExit} (good : exit.success = true) :
    exit = ⟨some 0⟩ := by
  obtain ⟨code⟩ := exit
  simpa [success] using good

theorem Handover.append_left (first : List ActEvent)
    (handover : Handover config workDir process found answer events) :
    Handover config workDir process found answer (first ++ events) := by
  obtain ⟨before, after, entries, time, least⟩ := handover
  rw [← List.append_assoc, ← List.append_assoc]
  exact .mk (first ++ before) after entries time least

theorem Handover.append_right (second : List ActEvent)
    (handover : Handover config workDir process found answer events) :
    Handover config workDir process found answer (events ++ second) := by
  obtain ⟨before, after, entries, time, least⟩ := handover
  rw [List.append_assoc]
  exact .mk before (after ++ second) entries time least

theorem Handover.launches_ne_nil (handover : Handover config workDir process found answer events) :
    launches events ≠ [] := by
  obtain ⟨before, after, entries, time, least⟩ := handover
  simp

theorem Rasterized.append (second : List ActEvent) (done : Rasterized config workDir events) :
    Rasterized config workDir (events ++ second) := by
  obtain ⟨path, process, before, after, rfl, started, ended⟩ := done
  exact ⟨path, process, before, after ++ second, List.append_assoc _ _ _, started,
    List.mem_append_left _ ended⟩

theorem Plan.silent (plan : Plan config source workDir staged handed (launches past))
    (silent : launches events = []) :
    Plan config source workDir staged handed (launches (past ++ events)) := by
  rw [launches_append, silent, List.append_nil]
  exact plan

theorem orderly_of_silent (silent : launches events = []) : Orderly options events :=
  List.pairwise_of_forall_mem_list fun _ _ later there _ => launches_eq_nil.mp silent later there

theorem Orderly.cons (steady : ¬ Setback options event) (rest : Orderly options events) :
    Orderly options (event :: events) :=
  List.pairwise_cons.mpr ⟨fun _ _ setback => absurd setback steady, rest⟩

theorem Orderly.append (before : Orderly options first) (after : Orderly options second)
    (stopped : (∃ e ∈ first, Setback options e) → launches second = []) :
    Orderly options (first ++ second) := by
  refine List.pairwise_append.mpr ⟨before, after, ?_⟩
  intro earlier there later within setback
  exact launches_eq_nil.mp (stopped ⟨earlier, there, setback⟩) later within

/-! ## No tool after a setback -/

namespace Job

variable {job job' : Job} {fault : Option Fault} {invocation : Invocation} {next last : JobState}

theorem Launch.orderly (launch : Launch job invocation next events job' fault) :
    Orderly options events := by
  cases launch with
  | refused cause => simp [Orderly]
  | started process time => simp [Orderly]

/-- A tool that has been started is no setback. -/
theorem Launch.steady (launch : Launch job invocation next events job' none) :
    ∀ e ∈ events, ¬ Setback options e := by
  cases launch with
  | started process time => simp

theorem exitEvents_steady {tool : RunningTool} {exit : ToolExit} {time : Duration}
    (good : exit.success = true) : ∀ e ∈ exitEvents tool exit time, ¬ Setback options e := by
  have seen : ¬ Setback options (.asked (.tryWait tool.process) (.ok (some exit))) := by
    intro setback
    cases setback with
    | badExit _ _ bad => simp [good] at bad
  simp [exitEvents, seen]

theorem listing_steady {entries : List Path} (least : IsLeast options entries found) :
    ¬ Setback options (.asked (.listDir workDir) (.ok entries)) := by
  intro setback
  cases setback with
  | missing _ _ absent => exact Bool.eq_false_iff.mp (absent found least.listed) least.intermediate

theorem Move.orderly (move : Move config job events job' fault) :
    Orderly config.pipeline events := by
  have exited : ∀ tool exit time, launches (exitEvents tool exit time) = [] := fun _ _ _ => rfl
  cases move with
  | office _ _ launch => exact launch.orderly
  | raster _ _ _ launch => exact launch.orderly
  | noTool | waitRefused | atWork => exact orderly_of_silent rfl
  | badExit tool exit time => exact orderly_of_silent (exited tool exit time)
  | converted tool exit time _ _ good rest =>
    refine (orderly_of_silent (exited tool exit time)).append ?_ ?_
    · cases rest with
      | listingFailed | missing => exact orderly_of_silent rfl
      | found entries path least launch =>
        exact launch.orderly.cons (listing_steady (leastIntermediate_eq_some least))
    · rintro ⟨e, there, setback⟩
      exact absurd setback (exitEvents_steady good e there)
  | rasterized tool exit time _ _ _ rest =>
    refine orderly_of_silent ?_
    rw [launches_append, exited]
    cases rest <;> rfl

/-- A move without a fault has met no setback. -/
theorem Move.steady (move : Move config job events job' none) :
    ∀ e ∈ events, ¬ Setback config.pipeline e := by
  cases move with
  | office _ _ launch => exact launch.steady
  | raster _ _ _ launch => exact launch.steady
  | atWork =>
    intro e there setback
    cases List.mem_singleton.mp there
    cases setback
  | converted tool exit time _ _ good rest =>
    refine List.forall_mem_append.mpr ⟨exitEvents_steady good, ?_⟩
    cases rest with
    | found entries path least launch =>
      have listed := leastIntermediate_eq_some least
      exact List.forall_mem_cons.mpr ⟨listing_steady listed, launch.steady⟩
  | rasterized tool exit time _ _ good rest =>
    refine List.forall_mem_append.mpr ⟨exitEvents_steady good, ?_⟩
    cases rest with
    | kept => simp
    | removed =>
      intro e there setback
      cases List.mem_singleton.mp there
      cases setback

theorem Abort.launches_eq_nil (abort : Abort job last events job') : launches events = [] := by
  obtain ⟨kill, cleanup⟩ := abort
  rw [launches_append, launches_of_toolCalls cleanup.toolCalls_eq_nil]
  cases kill <;> rfl

theorem Turn.orderly (turn : Turn config job events job') : Orderly config.pipeline events := by
  cases turn with
  | moved move => exact move.orderly
  | failed fault move abort =>
    have silent := abort.launches_eq_nil
    exact move.orderly.append (orderly_of_silent (by simpa using silent)) fun _ => by simpa

theorem Turn.ended_of_setback (turn : Turn config job events job')
    (setback : ∃ e ∈ events, Setback config.pipeline e) : job'.state.isTerminal = true := by
  cases turn with
  | moved move =>
    obtain ⟨e, there, setback⟩ := setback
    exact absurd setback (move.steady e there)
  | failed fault move abort =>
    cases abort
    rfl

theorem Pause.steady (pause : Pause event) : ¬ Setback options event := by
  intro setback
  cases pause <;> cases setback

theorem launches_of_pauses (pauses : ∀ e ∈ events, Pause e) : launches events = [] :=
  launches_of_toolCalls <|
    List.filterMap_eq_nil_iff.mpr fun e there => (pauses e there).toolCall?_eq_none

/-- After a setback the job has ended, and what follows in the chain are pauses. -/
theorem Chain.orderly (chain : Chain config job events job') :
    Orderly config.pipeline events ∧
      ((∃ e ∈ events, Setback config.pipeline e) → job'.state.isTerminal = true) := by
  -- what a change does to a job that it ends, and the rest of the chain, for both kinds of change
  have change : ∀ {between last : Job} {first second : List ActEvent},
      Orderly config.pipeline first →
      ((∃ e ∈ first, Setback config.pipeline e) → between.state.isTerminal = true) →
      Chain config between second last →
      (Orderly config.pipeline second ∧
        ((∃ e ∈ second, Setback config.pipeline e) → last.state.isTerminal = true)) →
      Orderly config.pipeline (first ++ second) ∧
        ((∃ e ∈ first ++ second, Setback config.pipeline e) → last.state.isTerminal = true) := by
    intro between last first second before ends rest after
    constructor
    · refine before.append after.1 ?_
      intro setback
      exact launches_of_pauses (rest.of_terminal (ends setback)).2
    · rintro ⟨e, there, setback⟩
      rcases List.mem_append.mp there with here | later
      · have ended := ends ⟨e, here, setback⟩
        rw [(rest.of_terminal ended).1]
        exact ended
      · exact after.2 ⟨e, later, setback⟩
  induction chain with
  | stay => exact ⟨orderly_of_silent rfl, by simp⟩
  | pause idle _ ih =>
    refine ⟨ih.1.cons idle.steady, ?_⟩
    rintro ⟨e, there, setback⟩
    rcases List.mem_cons.mp there with rfl | later
    · exact absurd setback idle.steady
    · exact ih.2 ⟨e, later, setback⟩
  | turn _ turn rest ih => exact change turn.orderly turn.ended_of_setback rest ih
  | cancel _ abort rest ih =>
    refine change (orderly_of_silent abort.launches_eq_nil) (fun _ => ?_) rest ih
    cases abort
    rfl

/-! ## What has been started for a job -/

/-- What has been started for a job tells where it stands. -/
structure Account (config : Config) (source workDir : Path) (staged : Option Path)
    (handed : ToolProcess → Path → Reply ToolProcess → Prop) (events : List ActEvent)
    (job : Job) : Prop where
  sourced : job.source = source
  placed : job.workDir = workDir
  plan : Plan config source workDir staged handed (launches events)
  init : job.state = .init → launches events = [] ∧ job.intermediate = staged
  office : job.state = .convertingToIntermediate → staged = none ∧
    ∃ tool, job.running = some tool ∧
      launches events = [(.office config source workDir, .ok tool.process)]
  raster : job.state = .convertingToImages → ∃ tool path, job.running = some tool ∧
    .asked (.launch (.raster config path workDir)) (.ok tool.process) ∈ events
  finished : job.state = .finished → Rasterized config workDir events

/-- Whatever starts nothing and leaves the job alone changes nothing in the account. -/
theorem Account.silent (account : Account config source workDir staged handed past job)
    (silent : launches events = []) :
    Account config source workDir staged handed (past ++ events) job := by
  have same : launches (past ++ events) = launches past := by simp [silent]
  refine ⟨account.sourced, account.placed, account.plan.silent silent, ?_, ?_, ?_, ?_⟩
  · rw [same]
    exact account.init
  · rw [same]
    exact account.office
  · intro state
    obtain ⟨tool, path, held, started⟩ := account.raster state
    exact ⟨tool, path, held, List.mem_append_left _ started⟩
  · intro state
    exact (account.finished state).append events

/-- Of a job that has been given up only the plan counts. -/
theorem account_of_given_up (givenUp : job.state.isGivenUp = true) (sourced : job.source = source)
    (placed : job.workDir = workDir)
    (plan : Plan config source workDir staged handed (launches events)) :
    Account config source workDir staged handed events job := by
  refine ⟨sourced, placed, plan, ?_, ?_, ?_, ?_⟩ <;> intro state <;>
    simp [state, JobState.isGivenUp] at givenUp

theorem account_of_office {tool : RunningTool} (state : job.state = .convertingToIntermediate)
    (sourced : job.source = source) (placed : job.workDir = workDir) (plain : staged = none)
    (held : job.running = some tool)
    (only : launches events = [(.office config source workDir, .ok tool.process)]) :
    Account config source workDir staged handed events job := by
  refine ⟨sourced, placed, only ▸ .office _ plain, ?_, fun _ => ⟨plain, tool, held, only⟩,
    ?_, ?_⟩ <;>
    intro other <;> simp [state] at other

theorem account_of_raster {tool : RunningTool} {path : Path}
    (state : job.state = .convertingToImages) (sourced : job.source = source)
    (placed : job.workDir = workDir) (held : job.running = some tool)
    (plan : Plan config source workDir staged handed (launches events))
    (started : .asked (.launch (.raster config path workDir)) (.ok tool.process) ∈ events) :
    Account config source workDir staged handed events job := by
  refine ⟨sourced, placed, plan, ?_, ?_, fun _ => ⟨tool, path, held, started⟩, ?_⟩ <;>
    intro other <;> simp [state] at other

theorem account_of_finished (state : job.state = .finished) (sourced : job.source = source)
    (placed : job.workDir = workDir)
    (plan : Plan config source workDir staged handed (launches events))
    (done : Rasterized config workDir events) :
    Account config source workDir staged handed events job := by
  refine ⟨sourced, placed, plan, ?_, ?_, ?_, fun _ => done⟩ <;>
    intro other <;> simp [state] at other

/-- A launch is the first thing asked, and then the tool that it has started is held. -/
theorem Launch.outcome (launch : Launch job invocation next events job' fault) :
    ∃ answer rest, events = .asked (.launch invocation) answer :: rest ∧ launches rest = [] ∧
      (fault = none → job'.state = next ∧
        ∃ tool, job'.running = some tool ∧ answer = .ok tool.process) := by
  cases launch with
  | refused cause => exact ⟨.error cause, [], rfl, rfl, nofun⟩
  | started process time =>
    exact ⟨.ok process, [.asked .clock time], rfl, rfl, fun _ => ⟨rfl, _, rfl, rfl⟩⟩

theorem launches_exitEvents (tool : RunningTool) (exit : ToolExit) (time : Duration) :
    launches (exitEvents tool exit time) = [] := rfl

/-- The office tool has ended well: the raster tool is handed what has been left, or there is a
fault and nothing is started. -/
theorem Account.rasterize {tool : RunningTool} {time : Duration}
    (account : Account config source workDir staged handed past job)
    (state : job.state = .convertingToIntermediate) (held : job.running = some tool)
    (shown : ∀ process found answer,
      Handover config workDir process found answer (exitEvents tool ⟨some 0⟩ time ++ events) →
      handed process found answer)
    (rest : Rasterize config (job.release ⟨some 0⟩ (tool.elapsedMs time)) events job' fault) :
    Plan config source workDir staged handed
        (launches (past ++ (exitEvents tool ⟨some 0⟩ time ++ events))) ∧
      (fault = none → job'.state = .convertingToImages ∧ ∃ tool' path, job'.running = some tool' ∧
        .asked (.launch (.raster config path workDir)) (.ok tool'.process) ∈ events) := by
  obtain ⟨plain, tool', held', office⟩ := account.office state
  cases held.symm.trans held'
  cases rest with
  | listingFailed | missing => exact ⟨account.plan.silent rfl, nofun⟩
  | found entries path least launch =>
    have placed : (job.release ⟨some 0⟩ (tool.elapsedMs time)).workDir = workDir := account.placed
    rw [placed] at launch shown ⊢
    obtain ⟨answer, rest, rfl, silent, outcome⟩ := launch.outcome
    have handover : handed tool.process path answer :=
      shown _ _ _ (.mk [] rest entries time (leastIntermediate_eq_some least))
    have both : Plan config source workDir staged handed
        [(.office config source workDir, .ok tool.process),
          (.raster config path workDir, answer)] :=
      .both tool.process path answer plain handover
    refine ⟨by simpa [office, silent, launches_exitEvents] using both, ?_⟩
    intro none
    obtain ⟨state', tool', held', rfl⟩ := outcome none
    exact ⟨state', tool', path, held', by simp⟩

/-- The plan is kept by every move, and the whole account by one without a fault. -/
theorem Account.move (account : Account config source workDir staged handed past job)
    (shown : ∀ process found answer, Handover config workDir process found answer events →
      handed process found answer)
    (move : Move config job events job' fault) :
    Plan config source workDir staged handed (launches (past ++ events)) ∧
      (fault = none → Account config source workDir staged handed (past ++ events) job') := by
  have sourced : job'.source = source := move.identity.source.trans account.sourced
  have placed : job'.workDir = workDir := move.identity.workDir.trans account.placed
  cases move with
  | office state plain launch =>
    obtain ⟨fresh, unstaged⟩ := account.init state
    have nothing : staged = none := unstaged.symm.trans plain
    rw [account.sourced, account.placed] at launch
    obtain ⟨answer, rest, rfl, silent, outcome⟩ := launch.outcome
    have only : launches (past ++ .asked (.launch (.office config source workDir)) answer :: rest) =
        [(.office config source workDir, answer)] := by
      simp [fresh, silent]
    refine ⟨only ▸ .office answer nothing, ?_⟩
    intro none
    obtain ⟨state', tool, held, rfl⟩ := outcome none
    exact account_of_office state' sourced placed nothing held only
  | raster path state copied launch =>
    obtain ⟨fresh, same⟩ := account.init state
    rw [account.placed] at launch
    obtain ⟨answer, rest, rfl, silent, outcome⟩ := launch.outcome
    have only : launches (past ++ .asked (.launch (.raster config path workDir)) answer :: rest) =
        [(.raster config path workDir, answer)] := by
      simp [fresh, silent]
    have plan : Plan config source workDir staged handed
        (launches (past ++ .asked (.launch (.raster config path workDir)) answer :: rest)) :=
      only ▸ .copy path answer (same.symm.trans copied)
    refine ⟨plan, ?_⟩
    intro none
    obtain ⟨state', tool, held, rfl⟩ := outcome none
    exact account_of_raster state' sourced placed held plan
      (List.mem_append_right _ List.mem_cons_self)
  | noTool | waitRefused => exact ⟨account.plan.silent rfl, by simp⟩
  | badExit tool exit time => exact ⟨account.plan.silent rfl, by simp⟩
  | atWork => exact ⟨account.plan.silent rfl, fun _ => account.silent rfl⟩
  | converted tool exit time state held good rest =>
    cases ToolExit.eq_of_success good
    obtain ⟨plan, outcome⟩ := account.rasterize state held shown rest
    refine ⟨plan, ?_⟩
    intro none
    obtain ⟨state', tool', path, held', started⟩ := outcome none
    exact account_of_raster state' sourced placed held' plan
      (List.mem_append_right _ (List.mem_append_right _ started))
  | rasterized tool exit time state held good rest =>
    obtain ⟨tool', path, held', started⟩ := account.raster state
    cases held.symm.trans held'
    cases ToolExit.eq_of_success good
    have done : ∀ later, Rasterized config workDir
        (past ++ (exitEvents tool ⟨some 0⟩ time ++ later)) := fun later =>
      ⟨path, tool.process, past, _, rfl, started, by simp [exitEvents]⟩
    cases rest with
    | kept | removed =>
      refine ⟨account.plan.silent rfl, ?_⟩
      intro none
      exact account_of_finished rfl sourced placed (account.plan.silent rfl) (done _)
    | removalFailed => exact ⟨account.plan.silent rfl, by simp⟩

theorem Account.turn (account : Account config source workDir staged handed past job)
    (shown : ∀ process found answer, Handover config workDir process found answer events →
      handed process found answer)
    (turn : Turn config job events job') :
    Account config source workDir staged handed (past ++ events) job' := by
  cases turn with
  | moved move => exact (account.move shown move).2 rfl
  | failed fault move abort =>
    have silent := abort.launches_eq_nil
    have same := move.identity.trans abort.identity
    obtain ⟨plan, -⟩ := account.move (fun p f a given => shown p f a (given.append_right _)) move
    rw [← List.append_assoc]
    refine account_of_given_up ?_ (same.source.trans account.sourced)
      (same.workDir.trans account.placed) (plan.silent (by simpa using silent))
    cases abort
    rfl

theorem Account.abort (account : Account config source workDir staged handed past job)
    (abort : Abort job .cancelled events job') :
    Account config source workDir staged handed (past ++ events) job' := by
  refine account_of_given_up ?_ (abort.identity.source.trans account.sourced)
    (abort.identity.workDir.trans account.placed) (account.plan.silent abort.launches_eq_nil)
  cases abort
  rfl

theorem Account.chain (account : Account config source workDir staged handed past job)
    (shown : ∀ process found answer, Handover config workDir process found answer events →
      handed process found answer)
    (chain : Chain config job events job') :
    Account config source workDir staged handed (past ++ events) job' := by
  induction chain generalizing past with
  | stay => simpa using account
  | @pause _ _ event later idle _ ih =>
    have silent : launches [event] = [] :=
      launches_of_pauses fun e there => List.mem_singleton.mp there ▸ idle
    rw [List.append_cons]
    exact ih (account.silent silent) fun p f a given => shown p f a (given.append_left [event])
  | turn _ turn _ ih =>
    rw [← List.append_assoc]
    exact ih (account.turn (fun p f a given => shown p f a (given.append_right _)) turn)
      fun p f a given => shown p f a (given.append_left _)
  | cancel _ abort _ ih =>
    rw [← List.append_assoc]
    exact ih (account.abort abort) fun p f a given => shown p f a (given.append_left _)

end Job

open Job

/-! ## In every history -/

namespace Converter

variable {c c' : Converter} {call : Call} {response : Response} {job : Job}

theorem Conduct.config_eq (conduct : Conduct c call events response c') :
    c'.config = c.config := by
  cases conduct with
  | busy | rejected | listed | registered => rfl
  | worked _ _ works => cases works <;> rfl

/-- There is a job from the first one on. -/
theorem Conduct.job_eq_some (current : c.job = some job)
    (conduct : Conduct c call events response c') : ∃ job', c'.job = some job' := by
  cases conduct with
  | busy | rejected | listed => exact ⟨job, current⟩
  | registered => exact ⟨_, rfl⟩
  | worked _ _ works =>
    cases works with
    | idle => exact ⟨job, current⟩
    | busy => exact ⟨_, rfl⟩

theorem Conduct.orderly (current : c.job = some job) (silent : response.registers = false)
    (conduct : Conduct c call events response c') :
    Orderly c.config.pipeline events ∧ ((∃ e ∈ events, Setback c.config.pipeline e) →
      ∃ job', c'.job = some job' ∧ job'.state.isTerminal = true) := by
  cases conduct with
  | busy => exact ⟨orderly_of_silent rfl, by simp⟩
  | rejected _ _ idle prepared =>
    refine ⟨orderly_of_silent (launches_of_toolCalls prepared.toolCalls_eq_nil), fun _ => ?_⟩
    refine ⟨job, current, ?_⟩
    simpa [activeJob?, current] using idle
  | registered => cases silent
  | listed handle known finished =>
    refine ⟨orderly_of_silent rfl, fun _ => ⟨_, (find?_eq_some.mp known).1, ?_⟩⟩
    simp [finished, JobState.isTerminal]
  | worked _ _ works =>
    cases works with
    | idle pauses =>
      refine ⟨orderly_of_silent (launches_of_pauses pauses), ?_⟩
      rintro ⟨e, there, setback⟩
      exact absurd setback (pauses e there).steady
    | busy _ chain =>
      obtain ⟨orderly, ended⟩ := chain.orderly
      exact ⟨orderly, fun setback => ⟨_, rfl, ended setback⟩⟩

theorem Conduct.account (current : c.job = some job) (silent : response.registers = false)
    (account : Account c.config source workDir staged handed past job)
    (shown : ∀ process found answer, Handover c.config workDir process found answer events →
      handed process found answer)
    (conduct : Conduct c call events response c') : ∃ job', c'.job = some job' ∧
      Account c.config source workDir staged handed (past ++ events) job' := by
  cases conduct with
  | busy => exact ⟨job, current, account.silent rfl⟩
  | rejected _ _ _ prepared =>
    exact ⟨job, current, account.silent (launches_of_toolCalls prepared.toolCalls_eq_nil)⟩
  | registered => cases silent
  | listed => exact ⟨job, current, account.silent rfl⟩
  | worked _ _ works =>
    cases works with
    | idle pauses => exact ⟨job, current, account.silent (launches_of_pauses pauses)⟩
    | busy here chain =>
      rw [current] at here
      cases here
      exact ⟨_, rfl, account.chain shown chain⟩

/-- Tools are only started where the job is looked at. -/
theorem polls_of_launches (course : (c.respond call).Course events (response, c'))
    (started : launches events ≠ []) : call.polls = true := by
  cases call with
  | poll | run => rfl
  | start source workDir =>
    obtain ⟨⟨result, next⟩, startCourse, -⟩ := Dialogue.course_reshape course fun _ => rfl
    refine absurd (launches_of_toolCalls ?_) started
    cases start_conduct startCourse with
    | busy => rfl
    | rejected _ _ _ prepared => exact prepared.toolCalls_eq_nil
    | registered _ _ _ prepared => exact prepared.toolCalls_eq_nil
    | worked other => cases other
  | cancel handle =>
    obtain ⟨⟨result, next⟩, cancelled, -⟩ := Dialogue.course_reshape course fun _ => rfl
    cases cancel_course cancelled with
    | unknown | ended => exact absurd rfl started
    | aborted _ _ abort => exact absurd abort.launches_eq_nil started
  | collectSlides handle =>
    obtain ⟨_, collected, -⟩ := Dialogue.course_reshape course fun _ => rfl
    cases collect_course collected <;> exact absurd rfl started
  | state | workDir | report =>
    obtain ⟨rfl, -⟩ := Dialogue.course_pure.mp course
    exact absurd rfl started
  | close =>
    obtain ⟨_, closed, -⟩ := Dialogue.course_reshape course fun _ => rfl
    cases close_course closed with
    | quiet => exact absurd rfl started
    | dropped _ _ abort => exact absurd (by simpa using abort.launches_eq_nil) started

variable {σ : Type} {r : Surroundings σ} {s s' : σ} {exchanges : List (Exchange σ)}

/-- Once the job has ended nothing is started for it. -/
theorem Linked.launches_eq_nil (linked : History.Linked r c s exchanges c' s')
    (current : c.job = some job) (ended : job.state.isTerminal = true)
    (silent : ∀ e ∈ exchanges, e.response.registers = false) :
    launches (exchanges.flatMap (·.events)) = [] := by
  obtain ⟨-, each⟩ := Linked.of_terminal linked current ended silent
  rw [launches, List.filterMap_flatMap, List.flatMap_eq_nil_iff]
  intro e there
  obtain ⟨-, -, untouched, -⟩ := each e there
  exact launches_of_toolCalls untouched

theorem Linked.orderly (linked : History.Linked r c s exchanges c' s')
    (current : c.job = some job) (silent : ∀ e ∈ exchanges, e.response.registers = false) :
    Orderly c.config.pipeline (exchanges.flatMap (·.events)) := by
  induction exchanges generalizing c s job with
  | nil => exact orderly_of_silent rfl
  | cons e rest ih =>
    obtain ⟨conduct, later⟩ := Linked.conduct linked
    obtain ⟨silentHere, silentLater⟩ := List.forall_mem_cons.mp silent
    obtain ⟨orderly, ended⟩ := conduct.orderly current silentHere
    obtain ⟨job', current'⟩ := conduct.job_eq_some current
    have after := ih later current' silentLater
    rw [conduct.config_eq] at after
    rw [List.flatMap_cons]
    refine orderly.append after ?_
    intro setback
    obtain ⟨last, current'', terminal⟩ := ended setback
    exact Linked.launches_eq_nil later current'' terminal silentLater

theorem Linked.account (linked : History.Linked r c s exchanges c' s')
    (current : c.job = some job) (silent : ∀ e ∈ exchanges, e.response.registers = false)
    (account : Account c.config source workDir staged handed past job)
    (shown : ∀ e ∈ exchanges, ∀ process found answer,
      Handover c.config workDir process found answer e.events → handed process found answer) :
    ∃ job', c'.job = some job' ∧ Account c.config source workDir staged handed
      (past ++ exchanges.flatMap (·.events)) job' := by
  refine (Linked.carry (fun between events => between.config = c.config ∧
    ∃ job', between.job = some job' ∧ Account c.config source workDir staged handed events job')
    past ?_ linked ⟨rfl, job, current, account⟩).2
  rintro e there between past conduct ⟨configured, job', current', account'⟩
  have shownHere := shown e there
  rw [← configured] at account' shownHere ⊢
  exact ⟨conduct.config_eq, conduct.account current' (silent e there) account' shownHere⟩

theorem Linked.config_eq (linked : History.Linked r c s exchanges c' s') : c'.config = c.config :=
  (linked.keeps (fun between => between.config = c.config)
    (fun _ _ _ _ _ same course => (respond_conduct course).config_eq.trans same) rfl).1

theorem Cancel.terminal_of_ok {handle : JobHandle} (cancel : Cancel c handle events (.ok ()) c') :
    ∃ job, c'.job = some job ∧ job.state.isTerminal = true := by
  cases cancel with
  | ended known terminal => exact ⟨_, (find?_eq_some.mp known).1, terminal⟩
  | aborted _ _ abort =>
    cases abort
    exact ⟨_, rfl, rfl⟩

/-- Where the job has finished, its raster tool has been seen to end well up to there. -/
theorem Linked.rasterized {before after : List (Exchange σ)} {x : Exchange σ} {job' : Job}
    (linked : History.Linked r c s (before ++ x :: after) c' s') (current : c.job = some job)
    (silent : ∀ e ∈ before ++ x :: after, e.response.registers = false)
    (account : Account c.config source workDir staged handed past job)
    (shown : ∀ e ∈ before ++ x :: after, ∀ process found answer,
      Handover c.config workDir process found answer e.events → handed process found answer)
    (current' : x.after.job = some job') (finished : job'.state = .finished) :
    Rasterized c.config workDir (past ++ (before ++ [x]).flatMap (·.events)) := by
  rw [List.append_cons] at linked silent shown
  obtain ⟨between, world, upTo, -⟩ := History.linked_append.mp linked
  obtain ⟨job'', current'', account'⟩ := Linked.account upTo current
    (fun y there => silent y (List.mem_append_left _ there)) account
    (fun y there => shown y (List.mem_append_left _ there))
  obtain ⟨_, _, -, -, -, reached, -⟩ := History.linked_append.mp upTo
  rw [reached, current'] at current''
  cases current''
  exact account'.finished finished

theorem Linked.launches_of_cancel {before after : List (Exchange σ)} {x : Exchange σ}
    {handle : JobHandle} (linked : History.Linked r c s (before ++ x :: after) c' s')
    (silent : ∀ e ∈ before ++ x :: after, e.response.registers = false)
    (cancelling : x.call = .cancel handle) (cancelled : x.response = .cancelled (.ok ())) :
    launches (x.events ++ after.flatMap (·.events)) = [] := by
  obtain ⟨between, world, -, same, performed, afterwards⟩ := History.linked_append.mp linked
  have course := History.genuine_of_perform same performed
  have here : launches x.events = [] := by
    by_contra started
    have polls := polls_of_launches course started
    simp [cancelling, Call.polls] at polls
  rw [History.Genuine, cancelling, cancelled] at course
  obtain ⟨⟨result, next⟩, cancelCourse, outcome⟩ := Dialogue.course_reshape course fun _ => rfl
  cases outcome
  obtain ⟨job', current', terminal⟩ := (cancel_course cancelCourse).terminal_of_ok
  have silentLater : ∀ y ∈ after, y.response.registers = false := fun y there =>
    silent y (List.mem_append_right _ (List.mem_cons_of_mem _ there))
  have later := Linked.launches_eq_nil afterwards current' terminal silentLater
  rw [launches_append, here, later]
  rfl

/-- Only a page-description file is staged, and then it has been copied. -/
theorem Preparation.staged_eq (prepared : Preparation config source workDir events (.ok staged)) :
    (config.pipeline.isIntermediate source = true → ∃ name, source.fileName = some name ∧
      .asked (.copy source (workDir.join ⟨name⟩)) (.ok ()) ∈ events ∧
      staged = some (workDir.join ⟨name⟩)) ∧
    (config.pipeline.isIntermediate source = false → staged = none) := by
  cases prepared with
  | housed preexisting _ house stage =>
    cases stage with
    | plain document => exact ⟨fun copied => by simp [document] at copied, fun _ => rfl⟩
    | copied name intermediate named =>
      exact ⟨fun _ => ⟨name, named, by simp, rfl⟩, fun plain => by simp [intermediate] at plain⟩

theorem Conduct.registers_job (registers : response.registers = true)
    (conduct : Conduct c (.start source workDir) events response c') :
    ∃ staged, Preparation c.config source workDir events (.ok staged) ∧
      c' = (c.register source workDir staged).2 := by
  obtain ⟨_, _, staged, same, -, prepared, registered⟩ := conduct.of_registers registers
  cases same
  exact ⟨staged, prepared, registered⟩

theorem account_registered (c : Converter) (source workDir : Path) (staged : Option Path)
    (handed : ToolProcess → Path → Reply ToolProcess → Prop) :
    ∃ job, (c.register source workDir staged).2.job = some job ∧
      Account c.config source workDir staged handed [] job :=
  ⟨_, rfl, rfl, rfl, .nothing, fun _ => ⟨rfl, rfl⟩, nofun, nofun, nofun⟩

/-- For each job of a history, from the start that has registered it until another one is
registered: a page-description file is copied and the raster tool is started for the copy, any
other source is for the office tool and what that leaves for the raster tool, nothing is started
but that, and nothing after a setback or a cancel. A job finishes only after its raster tool has
ended well. -/
theorem office_tool_before_raster_tool {σ : Type} (r : Surroundings σ) (config : Config)
    (compiler : PatternCompiler) (calls : List Call) (s : σ) :
    let h := History.of r calls { config, compiler } s
    ∀ earlier e during rest source workDir, h.exchanges = earlier ++ e :: (during ++ rest) →
      e.call = .start source workDir → e.response.registers = true →
      (∀ x ∈ during, x.response.registers = false) →
      let events := during.flatMap (·.events)
      let handed := fun process found answer => ∃ x ∈ during, x.call.polls = true ∧
        Handover config workDir process found answer x.events
      launches e.events = [] ∧
      (config.pipeline.isIntermediate source = true → ∃ name, source.fileName = some name ∧
        .asked (.copy source (workDir.join ⟨name⟩)) (.ok ()) ∈ e.events ∧
        Plan config source workDir (some (workDir.join ⟨name⟩)) handed (launches events)) ∧
      (config.pipeline.isIntermediate source = false →
        Plan config source workDir none handed (launches events)) ∧
      (∀ before x after job, during = before ++ x :: after → x.after.job = some job →
        job.state = .finished → Rasterized config workDir ((before ++ [x]).flatMap (·.events))) ∧
      Orderly config.pipeline events ∧
      (∀ before x after handle, during = before ++ x :: after → x.call = .cancel handle →
        x.response = .cancelled (.ok ()) →
        launches (x.events ++ after.flatMap (·.events)) = []) := by
  intro h earlier e during rest source workDir split called registers silent events handed
  have linked := History.of_linked r calls { config, compiler } s
  rw [split] at linked
  obtain ⟨c, world, before, afterwards⟩ := History.linked_append.mp linked
  obtain ⟨conduct, onward⟩ := Linked.conduct afterwards
  obtain ⟨last, world', through, -⟩ := History.linked_append.mp onward
  have configured : c.config = config := Linked.config_eq before
  rw [called] at conduct
  obtain ⟨staged, prepared, registered⟩ := conduct.registers_job registers
  rw [configured] at prepared
  have configured' : e.after.config = config := conduct.config_eq.trans configured
  obtain ⟨job, current, fresh⟩ := account_registered c source workDir staged handed
  rw [← registered] at current
  rw [configured, ← configured'] at fresh
  -- a handover is met only in a call that looks at the job
  have shown : ∀ x ∈ during, ∀ process found answer,
      Handover e.after.config workDir process found answer x.events →
      handed process found answer := by
    intro x there process found answer handover
    rw [configured'] at handover
    obtain ⟨-, each⟩ := through.keeps (fun _ => True) (fun _ _ _ _ _ _ _ => trivial) trivial
    exact ⟨x, there, polls_of_launches (each x there).2 handover.launches_ne_nil, handover⟩
  obtain ⟨_, _, account⟩ := Linked.account through current silent fresh shown
  rw [configured', List.nil_append] at account
  obtain ⟨copies, plain⟩ := prepared.staged_eq
  refine ⟨launches_of_toolCalls prepared.toolCalls_eq_nil, ?_, ?_, ?_, ?_, ?_⟩
  · intro intermediate
    obtain ⟨name, named, copied, rfl⟩ := copies intermediate
    exact ⟨name, named, copied, account.plan⟩
  · intro document
    rw [← plain document]
    exact account.plan
  · intro before x after job' cut current' finished
    rw [cut] at through silent shown
    have done := Linked.rasterized through current silent fresh shown current' finished
    rwa [configured'] at done
  · rw [← configured']
    exact Linked.orderly through current silent
  · intro before x after handle cut cancelling cancelled
    rw [cut] at through silent
    exact Linked.launches_of_cancel through silent cancelling cancelled

/-- A rehearsal in which both tools are started, one after the other. -/
theorem rehearsed_office_tool_before_raster_tool :
    let h := History.of Rehearsal.surroundings Rehearsal.conversion { config := {} }
      Rehearsal.slides
    let during := h.exchanges.tail
    (∀ x ∈ during, x.response.registers = false) ∧
      (launches (during.flatMap (·.events))).length = 2 ∧
      Plan {} (.ofString "talk.odp") (.ofString "work") none
        (fun process found answer => ∃ x ∈ during, x.call.polls = true ∧
          Handover {} (.ofString "work") process found answer x.events)
        (launches (during.flatMap (·.events))) := by
  intro h during
  have silent : ∀ x ∈ during, x.response.registers = false := by decide +kernel
  have both : (launches (during.flatMap (·.events))).length = 2 := by decide +kernel
  have first : ∃ e, h.exchanges = [] ++ e :: (during ++ []) ∧
      e.call = .start (.ofString "talk.odp") (.ofString "work") ∧ e.response.registers = true := by
    rw [List.append_nil]
    exact ⟨_, rfl, rfl, by decide +kernel⟩
  obtain ⟨e, split, called, registers⟩ := first
  obtain ⟨-, -, plan, -⟩ := office_tool_before_raster_tool Rehearsal.surroundings {} .standard
    Rehearsal.conversion Rehearsal.slides [] e during [] _ _ split called registers silent
  exact ⟨silent, both, plan (by decide +kernel)⟩

end Converter

end SlideConverter

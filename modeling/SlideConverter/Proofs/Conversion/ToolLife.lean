import Mathlib.Data.List.Induction
import SlideConverter.Proofs.Conversion.Coherence

/-!
# The life of a tool

A tool is started, waited for any number of times, and then either seen to have ended or
killed, and after that nobody calls it again. One watch over the calls says so: it is idle,
or one tool is at work, or a wait for that tool has been refused and it is lost. The watch
never stands still on a call of a coherent job, and where it stands is told by the tool
that the job holds. Everything else here is read off the watch.
-/

namespace SlideConverter

/-! ## Calls, lives and what is alive -/

/-- A call of the launcher or of a tool that it has started. -/
inductive ToolCall where
  | launched (invocation : Invocation) (answer : Reply ToolProcess)
  | waited (process : ToolProcess) (answer : Reply (Option ToolExit))
  | killed (process : ToolProcess) (answer : Reply Unit)

@[simp] def toolCall? : ActEvent → Option ToolCall
  | .asked (.launch invocation) answer => some (.launched invocation answer)
  | .asked (.tryWait process) answer => some (.waited process answer)
  | .asked (.kill process) answer => some (.killed process answer)
  | _ => none

def toolCalls (events : List ActEvent) : List ToolCall := events.filterMap toolCall?

inductive Ending where
  | exited (exit : ToolExit)
  | killed (answer : Reply Unit)
  /-- A wait was refused, and the tool was killed. -/
  | lost (cause : ErrorChain) (answer : Reply Unit)

def Ending.calls (process : ToolProcess) : Ending → List ToolCall
  | .exited exit => [.waited process (.ok (some exit))]
  | .killed answer => [.killed process answer]
  | .lost cause answer => [.waited process (.error cause), .killed process answer]

/-- What comes of one launch: a refusal, or the whole life of a tool. -/
inductive Episode where
  | refused (invocation : Invocation) (cause : ErrorChain)
  | lived (invocation : Invocation) (process : ToolProcess) (waits : Nat) (ending : Ending)

/-- The start of a tool and the waits in which it was at work. -/
def openCalls (invocation : Invocation) (process : ToolProcess) (waits : Nat) : List ToolCall :=
  .launched invocation (.ok process) :: List.replicate waits (.waited process (.ok none))

def Episode.calls : Episode → List ToolCall
  | .refused invocation cause => [.launched invocation (.error cause)]
  | .lived invocation process waits ending =>
    openCalls invocation process waits ++ ending.calls process

def ToolCall.apply (alive : List ToolProcess) : ToolCall → List ToolProcess
  | .launched _ (.ok process) => process :: alive
  | .waited process (.ok (some _)) | .killed process _ => alive.erase process
  | _ => alive

/-- The tools that have been started and neither been seen to end nor been killed. -/
def live (calls : List ToolCall) : List ToolProcess := calls.foldl ToolCall.apply []

/-! ## The watch -/

inductive Watch where
  | idle
  | busy (process : ToolProcess)
  | lost (process : ToolProcess)

namespace Watch

/-- Where a wait leaves the watch over the tool that was waited for. -/
@[simp] def afterWait (process : ToolProcess) : Reply (Option ToolExit) → Watch
  | .ok none => .busy process
  | .ok (some _) => .idle
  | .error _ => .lost process

/-- No other call may be made of the launcher and of tools. -/
def next : Watch → ToolCall → Option Watch
  | .idle, .launched _ (.ok process) => some (.busy process)
  | .idle, .launched _ (.error _) => some .idle
  | .busy process, .waited called answer =>
    if called = process then some (afterWait process answer) else none
  | .busy process, .killed called _ | .lost process, .killed called _ =>
    if called = process then some .idle else none
  | _, _ => none

def follow (watch : Watch) (calls : List ToolCall) : Option Watch := calls.foldlM next watch

/-- The tool that is watched over. -/
@[simp] def process? : Watch → Option ToolProcess
  | .idle => none
  | .busy process | .lost process => some process

variable {watch between last : Watch} {first second calls : List ToolCall} {call : ToolCall}

@[simp] theorem next_waited (process : ToolProcess) (answer : Reply (Option ToolExit)) :
    (busy process).next (.waited process answer) = some (afterWait process answer) := by
  simp [next]

theorem next_killed {process : ToolProcess} (watched : watch.process? = some process)
    (answer : Reply Unit) : watch.next (.killed process answer) = some .idle := by
  cases watch <;> simp_all [next]

@[simp] theorem follow_nil : watch.follow [] = some watch := rfl

@[simp] theorem follow_cons :
    watch.follow (call :: calls) = (watch.next call).bind (·.follow calls) := rfl

theorem follow_append :
    watch.follow (first ++ second) = (watch.follow first).bind (·.follow second) := by
  simp [follow, List.foldlM_append]

theorem follow_trans (before : watch.follow first = some between)
    (after : between.follow second = some last) : watch.follow (first ++ second) = some last := by
  rw [follow_append, before]
  exact after

/-- The ways in which the watch can go on. -/
theorem next_eq_some (h : watch.next call = some last) :
    (∃ invocation cause, watch = .idle ∧ call = .launched invocation (.error cause) ∧
      last = .idle) ∨
    (∃ invocation process, watch = .idle ∧ call = .launched invocation (.ok process) ∧
      last = .busy process) ∨
    (∃ process answer, watch = .busy process ∧ call = .waited process answer ∧
      last = afterWait process answer) ∨
    (∃ process answer, watch.process? = some process ∧ call = .killed process answer ∧
      last = .idle) := by
  cases call with
  | launched invocation answer => cases watch <;> cases answer <;> simp_all [next, eq_comm]
  | waited called answer => cases watch <;> simp_all [next]
  | killed called answer => cases watch <;> simp_all [next]

/-- At any moment the tool that is watched over is the only one alive. -/
theorem live_of_follow (followed : idle.follow calls = some watch) :
    live calls = watch.process?.toList := by
  induction calls using List.reverseRecOn generalizing watch with
  | nil =>
    cases followed
    rfl
  | append_singleton calls call ih =>
    rw [follow_append] at followed
    obtain ⟨before, reached, went⟩ := Option.bind_eq_some_iff.mp followed
    have stood := ih reached
    have step : before.next call = some watch := by simpa using went
    rw [live, List.foldl_append, ← live, stood]
    rcases next_eq_some step with ⟨_, _, rfl, rfl, rfl⟩ | ⟨_, _, rfl, rfl, rfl⟩ |
      ⟨process, answer, rfl, rfl, rfl⟩ | ⟨process, _, watched, rfl, rfl⟩
    · rfl
    · rfl
    · rcases answer with _ | _ | _ <;> simp [ToolCall.apply]
    · rw [watched]
      simp [ToolCall.apply]

/-- What has been called since the last episode ended. -/
def OpenCalls : Watch → List ToolCall → Prop
  | .idle, calls => calls = []
  | .busy process, calls => ∃ invocation waits, calls = openCalls invocation process waits
  | .lost process, calls => ∃ invocation waits cause,
    calls = openCalls invocation process waits ++ [.waited process (.error cause)]

theorem openCalls_wait (invocation : Invocation) (process : ToolProcess) (waits : Nat) :
    openCalls invocation process waits ++ [.waited process (.ok none)] =
      openCalls invocation process (waits + 1) := by
  simp [openCalls, List.replicate_succ']

/-- Whatever the watch has let pass is a row of episodes, the last one maybe unfinished. -/
theorem episodes_of_follow (followed : idle.follow calls = some watch) :
    ∃ (episodes : List Episode) (rest : List ToolCall),
      calls = episodes.flatMap Episode.calls ++ rest ∧ watch.OpenCalls rest := by
  induction calls using List.reverseRecOn generalizing watch with
  | nil =>
    cases followed
    exact ⟨[], [], rfl, rfl⟩
  | append_singleton calls call ih =>
    rw [follow_append] at followed
    obtain ⟨before, reached, went⟩ := Option.bind_eq_some_iff.mp followed
    obtain ⟨episodes, rest, rfl, unfinished⟩ := ih reached
    have step : before.next call = some watch := by simpa using went
    rcases next_eq_some step with ⟨invocation, cause, rfl, rfl, rfl⟩ |
      ⟨invocation, process, rfl, rfl, rfl⟩ | ⟨process, answer, rfl, rfl, rfl⟩ |
      ⟨process, answer, watched, rfl, rfl⟩
    · cases unfinished
      exact ⟨episodes ++ [.refused invocation cause], [], by simp [Episode.calls], rfl⟩
    · cases unfinished
      exact ⟨episodes, [.launched invocation (.ok process)], by simp, invocation, 0, rfl⟩
    · obtain ⟨invocation, waits, rfl⟩ := unfinished
      match answer with
      | .ok none =>
        refine ⟨episodes, _, ?_, invocation, waits + 1, rfl⟩
        rw [List.append_assoc, openCalls_wait]
      | .ok (some exit) =>
        refine ⟨episodes ++ [.lived invocation process waits (.exited exit)], [], ?_, rfl⟩
        simp [Episode.calls, Ending.calls]
      | .error cause =>
        exact ⟨episodes, _, List.append_assoc _ _ _, invocation, waits, cause, rfl⟩
    · cases before with
      | idle => cases watched
      | busy held =>
        cases watched
        obtain ⟨invocation, waits, rfl⟩ := unfinished
        refine ⟨episodes ++ [.lived invocation process waits (.killed answer)], [], ?_, rfl⟩
        simp [Episode.calls, Ending.calls]
      | lost held =>
        cases watched
        obtain ⟨invocation, waits, cause, rfl⟩ := unfinished
        refine ⟨episodes ++ [.lived invocation process waits (.lost cause answer)], [], ?_, rfl⟩
        simp [Episode.calls, Ending.calls]

end Watch

@[simp] theorem toolCalls_nil : toolCalls [] = [] := rfl

@[simp] theorem toolCalls_cons (event : ActEvent) (events : List ActEvent) :
    toolCalls (event :: events) = (toolCall? event).toList ++ toolCalls events := by
  cases called : toolCall? event with
  | none => exact List.filterMap_cons_none called
  | some call => exact List.filterMap_cons_some called

@[simp] theorem toolCalls_append (first second : List ActEvent) :
    toolCalls (first ++ second) = toolCalls first ++ toolCalls second :=
  List.filterMap_append

/-! ## Watching a job -/

namespace Job

variable {config : Config} {job job' : Job} {events : List ActEvent}

def watch (job : Job) : Watch :=
  match job.running with
  | none => .idle
  | some tool => .busy tool.process

theorem watch_eq_idle (free : job.running = none) : job.watch = .idle := by
  simp [watch, free]

theorem watch_eq_busy {tool : RunningTool} (held : job.running = some tool) :
    job.watch = .busy tool.process := by
  simp [watch, held]

theorem Coherent.running_eq_none (coherent : job.Coherent)
    (neither : job.state ≠ .convertingToIntermediate ∧ job.state ≠ .convertingToImages) :
    job.running = none := by
  have held := coherent.running
  cases running : job.running with
  | none => rfl
  | some tool => simp_all

theorem Launch.watch {invocation : Invocation} {next : JobState} {fault : Option Fault}
    (free : job.running = none) (launch : Launch job invocation next events job' fault) :
    Watch.idle.follow (toolCalls events) = some job'.watch := by
  cases launch with
  | refused cause =>
    rw [watch_eq_idle free]
    rfl
  | started process time => rfl

/-- A move is watched to its end. The watch stands where the job says, unless the tool is lost,
which is a fault. -/
theorem Move.watch {fault : Option Fault} (coherent : job.Coherent)
    (move : Move config job events job' fault) :
    ∃ watch, job.watch.follow (toolCalls events) = some watch ∧
      watch.process? = job'.watch.process? ∧ (fault = none → watch = job'.watch) := by
  have settled : ∀ {e j}, job.watch.follow (toolCalls e) = some (Job.watch j) →
      ∃ watch, job.watch.follow (toolCalls e) = some watch ∧
        watch.process? = j.watch.process? ∧ (fault = none → watch = j.watch) :=
    fun h => ⟨_, h, rfl, fun _ => rfl⟩
  have exited : ∀ {tool exit time}, job.running = some tool →
      job.watch.follow (toolCalls (exitEvents tool exit time)) = some .idle := by
    intro tool exit time held
    simp [watch_eq_busy held, exitEvents]
  cases move with
  | office state _ launch =>
    have free := coherent.running_eq_none (by simp [state])
    refine settled ?_
    rw [watch_eq_idle free]
    exact launch.watch free
  | raster _ state _ launch =>
    have free := coherent.running_eq_none (by simp [state])
    refine settled ?_
    rw [watch_eq_idle free]
    exact launch.watch free
  | noTool => exact settled rfl
  | waitRefused tool cause _ held =>
    refine ⟨.lost tool.process, ?_, ?_, by simp⟩
    · simp [watch_eq_busy held]
    · rw [watch_eq_busy held]
      rfl
  | atWork tool _ held =>
    refine settled ?_
    simp [watch_eq_busy held]
  | badExit tool exit time _ held _ => exact settled (exited held)
  | converted tool exit time _ held _ rest =>
    refine settled ?_
    rw [toolCalls_append]
    refine Watch.follow_trans (exited held) ?_
    cases rest with
    | listingFailed | missing => rfl
    | found entries path _ launch => simpa using launch.watch rfl
  | rasterized tool exit time _ held _ rest =>
    refine settled ?_
    rw [toolCalls_append]
    refine Watch.follow_trans (exited held) ?_
    cases rest <;> rfl

theorem Kill.watch {watch : Watch} (watched : watch.process? = job.watch.process?)
    (kill : Kill job events job') : watch.follow (toolCalls events) = some .idle := by
  cases kill with
  | free none =>
    rw [watch_eq_idle none] at watched
    cases watch with
    | idle => rfl
    | busy process => cases watched
    | lost process => cases watched
  | killed tool time held | refused tool cause time held =>
    rw [watch_eq_busy held] at watched
    simp [Watch.next_killed watched]

theorem Cleanup.toolCalls_eq_nil {workDir : Path} (cleanup : Cleanup workDir events) :
    toolCalls events = [] := by
  cases cleanup <;> rfl

theorem Abort.watch {watch : Watch} {last : JobState}
    (watched : watch.process? = job.watch.process?) (abort : Abort job last events job') :
    watch.follow (toolCalls events) = some job'.watch := by
  cases abort with
  | @mk killing cleaning freed kill cleanup =>
    have free : (freed.inState last).watch = .idle := watch_eq_idle kill.running_eq_none
    rw [toolCalls_append, cleanup.toolCalls_eq_nil, List.append_nil, free]
    exact kill.watch watched

theorem Turn.watch (coherent : job.Coherent) (turn : Turn config job events job') :
    job.watch.follow (toolCalls events) = some job'.watch := by
  cases turn with
  | moved move =>
    obtain ⟨watch, followed, -, settled⟩ := move.watch coherent
    rw [followed, settled rfl]
  | failed fault move abort =>
    obtain ⟨watch, followed, watched, -⟩ := move.watch coherent
    rw [toolCalls_append]
    exact Watch.follow_trans followed (by simpa using abort.watch watched)

theorem Pause.toolCall?_eq_none {event : ActEvent} (pause : Pause event) :
    toolCall? event = none := by
  cases pause <;> rfl

theorem Chain.watch (coherent : job.Coherent) (chain : Chain config job events job') :
    job.watch.follow (toolCalls events) = some job'.watch := by
  induction chain with
  | stay => rfl
  | pause idle _ ih =>
    rw [toolCalls_cons, idle.toolCall?_eq_none]
    exact ih coherent
  | turn _ turn _ ih =>
    rw [toolCalls_append]
    exact Watch.follow_trans (turn.watch coherent) (ih (coherent.turn turn))
  | cancel _ abort _ ih =>
    rw [toolCalls_append]
    exact Watch.follow_trans (abort.watch rfl) (ih (abort.coherent (.inl rfl)))

/-! ## Why a tool is killed -/

/-- Where a tool is killed, a deadline has passed or a wait for that tool has been refused. -/
def KillsExplained (events : List ActEvent) : Prop :=
  ∀ process answer, .asked (.kill process) answer ∈ events →
    (∃ handle limit, .noted (.deadlineExceeded handle limit) ∈ events) ∨
    ∃ cause, .asked (.tryWait process) (.error cause) ∈ events

theorem KillsExplained.append {first second : List ActEvent} (before : KillsExplained first)
    (after : KillsExplained second) : KillsExplained (first ++ second) := by
  intro process answer killed
  rcases List.mem_append.mp killed with killed | killed
  · rcases before process answer killed with ⟨handle, limit, late⟩ | ⟨cause, refused⟩
    · exact .inl ⟨handle, limit, List.mem_append_left _ late⟩
    · exact .inr ⟨cause, List.mem_append_left _ refused⟩
  · rcases after process answer killed with ⟨handle, limit, late⟩ | ⟨cause, refused⟩
    · exact .inl ⟨handle, limit, List.mem_append_right _ late⟩
    · exact .inr ⟨cause, List.mem_append_right _ refused⟩

/-- A fault lets the tool go, unless the fault is that the wait for it has been refused. -/
theorem held_of_fault {faulty : Job} {fault : Fault} {tool : RunningTool}
    (coherent : job.Coherent) (move : Move config job events faulty (some fault))
    (held : faulty.running = some tool) :
    ∃ cause, events = [.asked (.tryWait tool.process) (.error cause)] := by
  cases move with
  | office state _ launch =>
    cases launch
    simp [coherent.running_eq_none, state] at held
  | raster _ state _ launch =>
    cases launch
    simp [coherent.running_eq_none, state] at held
  | noTool _ free => simp [free] at held
  | waitRefused lost cause _ same =>
    rw [same] at held
    cases held
    exact ⟨cause, rfl⟩
  | badExit => cases held
  | converted _ _ _ _ _ _ rest =>
    cases rest with
    | listingFailed | missing => cases held
    | found _ _ _ launch =>
      cases launch
      cases held
  | rasterized _ _ _ _ _ _ rest =>
    cases rest
    cases held

theorem held_of_kill {last : JobState} {process : ToolProcess} {answer : Reply Unit}
    (abort : Abort job last events job')
    (killed : .asked (.kill process) answer ∈ events) :
    ∃ tool, job.running = some tool ∧ tool.process = process := by
  obtain ⟨kill, cleanup⟩ := abort
  rcases List.mem_append.mp killed with killed | killed
  · cases kill with
    | free => cases killed
    | killed tool time held => exact ⟨tool, held, by simp_all⟩
    | refused tool cause time held => exact ⟨tool, held, by simp_all⟩
  · cases cleanup <;> simp at killed

theorem Turn.killsExplained (coherent : job.Coherent) (turn : Turn config job events job') :
    KillsExplained events := by
  intro process answer killed
  cases turn with
  | moved move => cases move.working _ killed
  | failed fault move abort =>
    rcases List.mem_append.mp killed with killed | killed
    · cases move.working _ killed
    · obtain ⟨tool, held, rfl⟩ := held_of_kill abort (by simpa using killed)
      obtain ⟨cause, rfl⟩ := held_of_fault coherent move held
      exact .inr ⟨cause, by simp⟩

end Job

open Job

/-! ## Watching a converter -/

namespace Converter

variable {c c' : Converter} {call : Call} {events : List ActEvent} {response : Response}

def watch (c : Converter) : Watch :=
  match c.job with
  | none => .idle
  | some job => job.watch

theorem watch_eq_of_job {job : Job} (current : c.job = some job) : c.watch = job.watch := by
  simp [watch, current]

theorem Coherent.watch_eq_idle (coherent : c.Coherent) (idle : c.activeJob? = none) :
    c.watch = .idle := by
  cases current : c.job with
  | none => simp [watch, current]
  | some job =>
    rw [watch_eq_of_job current]
    refine Job.watch_eq_idle ((coherent job current).running_eq_none ?_)
    constructor <;> intro state <;>
      simp [activeJob?, current, state, JobState.isTerminal] at idle

theorem Housing.toolCalls_eq_nil {workDir : Path} {result : Except ConversionError Bool}
    (housing : Housing workDir events result) : toolCalls events = [] := by
  cases housing with
  | unlistable | occupied | unwritable => rfl
  | unmade preexisting | made preexisting => cases preexisting <;> rfl

theorem Staging.toolCalls_eq_nil {config : Config} {source workDir : Path} {preexisting : Bool}
    {result : Except ConversionError (Option Path)}
    (staging : Staging config source workDir preexisting events result) :
    toolCalls events = [] := by
  cases staging with
  | plain | copied | left => rfl
  | undone _ _ _ _ _ cleanup => exact cleanup.toolCalls_eq_nil

theorem Preparation.toolCalls_eq_nil {config : Config} {source workDir : Path}
    {result : Except ConversionError (Option Path)}
    (preparation : Preparation config source workDir events result) : toolCalls events = [] := by
  cases preparation with
  | unsupported | unreadable => rfl
  | unhoused _ housing => exact housing.toolCalls_eq_nil
  | housed _ _ house stage =>
    simp [house.toolCalls_eq_nil, stage.toolCalls_eq_nil]

theorem Conduct.watch (coherent : c.Coherent) (conduct : Conduct c call events response c') :
    c.watch.follow (toolCalls events) = some c'.watch := by
  cases conduct with
  | busy => rfl
  | rejected _ _ _ prepared =>
    rw [prepared.toolCalls_eq_nil]
    rfl
  | registered _ _ idle prepared =>
    rw [prepared.toolCalls_eq_nil, coherent.watch_eq_idle idle]
    rfl
  | listed => rfl
  | worked _ _ works =>
    cases works with
    | idle pauses =>
      have nothing : toolCalls events = [] :=
        List.filterMap_eq_nil_iff.mpr fun e he => (pauses e he).toolCall?_eq_none
      rw [nothing]
      rfl
    | busy current chain =>
      rw [watch_eq_of_job current]
      exact chain.watch (coherent _ current)

theorem Coherent.watch_linked {σ : Type} {r : Surroundings σ} {s s' : σ}
    {exchanges : List (Exchange σ)} (coherent : c.Coherent)
    (linked : History.Linked r c s exchanges c' s') :
    c.watch.follow (toolCalls (exchanges.flatMap (·.events))) = some c'.watch := by
  induction exchanges generalizing c s with
  | nil =>
    obtain ⟨rfl, -⟩ := linked
    rfl
  | cons e rest ih =>
    obtain ⟨conduct, later⟩ := Linked.conduct linked
    rw [List.flatMap_cons, toolCalls_append]
    exact Watch.follow_trans (conduct.watch coherent) (ih (coherent.conduct conduct) later)

theorem watch_history {σ : Type} (r : Surroundings σ) (config : Config)
    (compiler : PatternCompiler) (calls : List Call) (s : σ) :
    Watch.idle.follow (toolCalls (History.of r calls { config, compiler } s).events) =
      some (History.of r calls { config, compiler } s).converter.watch :=
  (coherent_initial config compiler).watch_linked (History.of_linked r calls _ s)

theorem Poll.killsExplained {handle : JobHandle} {result : Except ConversionError PollResult}
    (coherent : c.Coherent) (poll : Poll c handle events result c') : KillsExplained events := by
  cases poll with
  | unknown | ended => exact fun _ _ killed => by cases killed
  | turned known _ turn =>
    exact turn.killsExplained (coherent _ (find?_eq_some.mp known).1)

theorem Run.killsExplained {handle : JobHandle} {interval started : Duration}
    {deadline : Option Duration} {ticks : Nat}
    {result : Option (Except ConversionError PollResult)} (coherent : c.Coherent)
    (run : Run handle interval deadline started ticks c events result c') :
    KillsExplained events := by
  induction run with
  | exhausted => exact fun _ _ killed => by cases killed
  | refused poll => exact poll.killsExplained coherent
  | ended poll => exact poll.killsExplained coherent
  | late _ _ now limit =>
    intro _ _ _
    exact .inl ⟨handle, limit, List.mem_append_right _ (by simp)⟩
  | again poll _ now _ slept rest ih =>
    have between := ih (coherent.works poll.works)
    refine (poll.killsExplained coherent).append ?_
    intro process answer killed
    simpa using between process answer (by simpa using killed)

/-- A call in which a tool is killed is a cancel or a close, or has met a deadline or a refused
wait for that tool. -/
theorem kill_reason {process : ToolProcess} {answer : Reply Unit} (coherent : c.Coherent)
    (course : (c.respond call).Course events (response, c'))
    (killed : .asked (.kill process) answer ∈ events) :
    (∃ handle, call = .cancel handle) ∨ call = .close ∨
      (∃ handle limit, .noted (.deadlineExceeded handle limit) ∈ events) ∨
      ∃ cause, .asked (.tryWait process) (.error cause) ∈ events := by
  cases call with
  | start source workDir =>
    obtain ⟨⟨result, next⟩, started, -⟩ := Dialogue.course_reshape course fun _ => rfl
    have called : .killed process answer ∈ toolCalls events :=
      List.mem_filterMap.mpr ⟨_, killed, rfl⟩
    cases start_conduct started with
    | busy => cases killed
    | rejected _ _ _ prepared => simp [prepared.toolCalls_eq_nil] at called
    | registered _ _ _ prepared => simp [prepared.toolCalls_eq_nil] at called
    | worked other => cases other
  | poll handle =>
    obtain ⟨_, polled, same⟩ := Dialogue.course_reshape course fun _ => rfl
    exact .inr (.inr ((poll_course polled).killsExplained coherent process answer killed))
  | cancel handle => exact .inl ⟨handle, rfl⟩
  | collectSlides handle =>
    obtain ⟨_, collected, same⟩ := Dialogue.course_reshape course fun _ => rfl
    cases collect_course collected <;> simp at killed
  | state | workDir | report =>
    obtain ⟨rfl, -⟩ := Dialogue.course_pure.mp course
    cases killed
  | run handle interval deadline maxTicks =>
    obtain ⟨_, ran, same⟩ := Dialogue.course_reshape course fun _ => rfl
    obtain ⟨started, rest, rfl, ticked⟩ := course_ask_bind.mp ran
    have explained := (run_course ticked).killsExplained coherent
    have reason := explained process answer (by simpa using killed)
    exact .inr (.inr (by simpa using reason))
  | close => exact .inr (.inl rfl)

theorem closed_watch {σ : Type} (r : Surroundings σ) (config : Config)
    (compiler : PatternCompiler) (calls : List Call) (s : σ) :
    (History.of r (calls ++ [.close]) { config, compiler } s).converter.watch = .idle := by
  obtain ⟨coherent, -⟩ := coherent_history r config compiler (calls ++ [.close]) s
  refine coherent.watch_eq_idle ?_
  rw [History.of_append]
  obtain ⟨_, closed, same⟩ := Dialogue.course_reshape
    (((History.of r calls { config, compiler } s).converter.respond .close).perform_course r
      (History.of r calls { config, compiler } s).world) fun _ => rfl
  have gone := (close_course closed).idle
  simpa [History.of, same] using gone

/-- In every history that ends with closing, the calls of launcher and tools are a row of
episodes. So at any moment there is at most one tool alive, none is alive where a tool is
started, after a job has ended, or after closing; and a tool is only killed for a reason. -/
theorem at_most_one_tool_alive {σ : Type} (r : Surroundings σ) (config : Config)
    (compiler : PatternCompiler) (calls : List Call) (s : σ) :
    let h := History.of r calls { config, compiler } s
    let closed := History.of r (calls ++ [.close]) { config, compiler } s
    (∃ episodes : List Episode, toolCalls closed.events = episodes.flatMap Episode.calls) ∧
    (∀ before after, toolCalls closed.events = before ++ after → (live before).length ≤ 1) ∧
    (∀ before invocation answer after,
      toolCalls closed.events = before ++ .launched invocation answer :: after →
      live before = []) ∧
    (∀ job, h.converter.job = some job → job.state.isTerminal = true →
      live (toolCalls h.events) = []) ∧
    live (toolCalls closed.events) = [] ∧
    (∀ e ∈ closed.exchanges, ∀ process answer, .asked (.kill process) answer ∈ e.events →
      (∃ handle, e.call = .cancel handle) ∨ e.call = .close ∨
        (∃ handle limit, .noted (.deadlineExceeded handle limit) ∈ e.events) ∨
        ∃ cause, .asked (.tryWait process) (.error cause) ∈ e.events) := by
  intro h closed
  have followed := watch_history r config compiler (calls ++ [.close]) s
  rw [closed_watch] at followed
  refine ⟨?_, ?_, ?_, ?_, ?_, ?_⟩
  · obtain ⟨episodes, rest, split, none⟩ := Watch.episodes_of_follow followed
    cases none
    exact ⟨episodes, by simpa using split⟩
  · intro before after split
    rw [split, Watch.follow_append] at followed
    obtain ⟨watch, reached, -⟩ := Option.bind_eq_some_iff.mp followed
    rw [Watch.live_of_follow reached]
    cases watch <;> simp
  · intro before invocation answer after split
    rw [split, Watch.follow_append] at followed
    obtain ⟨watch, reached, went⟩ := Option.bind_eq_some_iff.mp followed
    rw [Watch.live_of_follow reached]
    cases watch with
    | idle => rfl
    | busy process => simp [Watch.next] at went
    | lost process => simp [Watch.next] at went
  · intro job current terminal
    obtain ⟨coherent, -⟩ := coherent_history r config compiler calls s
    rw [Watch.live_of_follow (watch_history r config compiler calls s), coherent.watch_eq_idle]
    · rfl
    · simp [activeJob?, h, current, terminal]
  · rw [Watch.live_of_follow followed]
    rfl
  · intro e he process answer killed
    obtain ⟨-, each⟩ := coherent_history r config compiler (calls ++ [.close]) s
    obtain ⟨coherent, genuine⟩ := each e he
    exact kill_reason coherent genuine killed

end Converter

end SlideConverter

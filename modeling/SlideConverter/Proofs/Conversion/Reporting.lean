import Mathlib.Data.List.Infix
import Mathlib.Data.List.Nodup
import SlideConverter.Proofs.Conversion.ToolOrder

/-!
# What the report tells

The reports of a job's tools are kept beside the tools themselves: one is opened when a tool has
been started, and the last one is completed in place, once where its tool is seen to have ended and
once where it is killed. A ledger compares them with the calls that have been made. The calls fall
into lives, one for each tool that was started, with all that it was called until the next start,
and the reports tell of these lives in order.
-/

namespace SlideConverter

/-! ## Lives and their reports -/

/-- The tool that is called, unless it is still to be started. -/
@[simp] def ToolCall.process? : ToolCall → Option ToolProcess
  | .launched _ _ => none
  | .waited process _ | .killed process _ => some process

/-- A tool that has been started, and the calls of it from then on. -/
structure Life where
  invocation : Invocation
  process : ToolProcess
  later : List ToolCall
  own : ∀ call ∈ later, call.process? = some process

namespace Life

def calls (life : Life) : List ToolCall :=
  .launched life.invocation (.ok life.process) :: life.later

def born (invocation : Invocation) (process : ToolProcess) : Life :=
  ⟨invocation, process, [], by simp⟩

/-- The life with one more call. -/
def goOn (life : Life) (call : ToolCall) (own : call.process? = some life.process) : Life :=
  { life with
    later := life.later ++ [call]
    own := List.forall_mem_append.mpr ⟨life.own, by simpa using own⟩ }

theorem flatMap_goOn (lives : List Life) (life : Life) (call : ToolCall)
    (own : call.process? = some life.process) : (lives ++ [life.goOn call own]).flatMap calls =
      lives.flatMap calls ++ life.calls ++ [call] := by
  simp [calls, goOn]

/-- Where no two lives are of the same tool, all calls of a tool are in its own life. -/
theorem mem_later_iff {lives : List Life} {refused : List ToolCall}
    (distinct : (lives.map (·.process)).Nodup) (unborn : ∀ call ∈ refused, call.process? = none)
    {life : Life} (there : life ∈ lives) {call : ToolCall}
    (own : call.process? = some life.process) :
    call ∈ lives.flatMap calls ++ refused ↔ call ∈ life.later := by
  constructor
  · intro called
    rcases List.mem_append.mp called with called | called
    · obtain ⟨other, among, called⟩ := List.mem_flatMap.mp called
      rcases List.mem_cons.mp called with rfl | called
      · cases own
      · have same : other.process = life.process :=
          Option.some.inj ((other.own call called).symm.trans own)
        rwa [← List.inj_on_of_nodup_map distinct among there same]
    · rw [unborn call called] at own
      cases own
  · intro called
    refine List.mem_append_left _ (List.mem_flatMap.mpr ⟨life, there, ?_⟩)
    exact List.mem_cons_of_mem _ called

end Life

namespace StageReport

/-- The report tells a life as far as it has come. -/
structure Tells (r : StageReport) (life : Life) : Prop where
  stage : r.stage = life.invocation.stage
  command : r.command = life.invocation.commandLine
  pid : r.pid = life.process.pid
  exitCode : ∀ code, r.exitCode = some code ↔
    .waited life.process (.ok (some ⟨some code⟩)) ∈ life.later
  killed : r.killed = true ↔ ∃ answer, .killed life.process answer ∈ life.later
  unended : r.killed = true → r.exitCode = none

/-- The tool has ended well and has not been killed. -/
def Good (r : StageReport) : Prop := r.exitCode = some 0 ∧ r.killed = false

/-- Nothing has been seen of an end yet. -/
def Open (r : StageReport) : Prop := r.exitCode = none ∧ r.killed = false

variable {r r' : StageReport} {life : Life} {call : ToolCall}

theorem tells_openingReport (invocation : Invocation) (process : ToolProcess) :
    (Job.openingReport invocation process).Tells (.born invocation process) :=
  ⟨rfl, rfl, rfl, by simp [Job.openingReport, Life.born],
    by simp [Job.openingReport, Life.born], nofun⟩

/-- What an open report has to become when its tool is called once more. -/
theorem Tells.goOn (tells : r.Tells life) (opened : r.Open)
    (own : call.process? = some life.process)
    (same : r'.stage = r.stage ∧ r'.command = r.command ∧ r'.pid = r.pid)
    (exitCode : ∀ code, r'.exitCode = some code ↔
      .waited life.process (.ok (some ⟨some code⟩)) = call)
    (killed : r'.killed = true ↔ ∃ answer, .killed life.process answer = call) :
    r'.Tells (life.goOn call own) := by
  obtain ⟨unseen, alive⟩ := opened
  have noExit : ∀ code, .waited life.process (.ok (some ⟨some code⟩)) ∉ life.later := by
    intro code
    rw [← tells.exitCode, unseen]
    nofun
  have noKill : ∀ answer, .killed life.process answer ∉ life.later := by
    intro answer there
    rw [tells.killed.mpr ⟨answer, there⟩] at alive
    cases alive
  obtain ⟨stage, command, pid⟩ := same
  refine ⟨stage.trans tells.stage, command.trans tells.command, pid.trans tells.pid, ?_, ?_, ?_⟩
  · intro code
    simpa [Life.goOn, noExit] using exitCode code
  · simpa [Life.goOn, noKill] using killed
  · intro dead
    obtain ⟨answer, rfl⟩ := killed.mp dead
    refine Option.eq_none_iff_forall_ne_some.mpr fun code ended => ?_
    cases (exitCode code).mp ended

end StageReport

/-! ## The ledger -/

/-- What a job is at: between its tools, at work with one of them, or done with them. -/
inductive Occupation where
  | free
  | held (process : ToolProcess)
  | closed

@[simp] def Occupation.process? : Occupation → Option ToolProcess
  | .held process => some process
  | .free | .closed => none

inductive Ledger : List ToolCall → List StageReport → Occupation → Prop
  | free {stages : List StageReport} {lives : List Life}
      (told : List.Forall₂ StageReport.Tells stages lives) (good : ∀ r ∈ stages, r.Good) :
    Ledger (lives.flatMap Life.calls) stages .free
  | held {stages : List StageReport} {lives : List Life} {last : StageReport} {life : Life}
      (told : List.Forall₂ StageReport.Tells stages lives) (good : ∀ r ∈ stages, r.Good)
      (tells : last.Tells life) (opened : last.Open) :
    Ledger (lives.flatMap Life.calls ++ life.calls) (stages ++ [last]) (.held life.process)
  | closed {stages : List StageReport} {lives : List Life} {refused : List ToolCall}
      (told : List.Forall₂ StageReport.Tells stages lives) (good : ∀ r ∈ stages.dropLast, r.Good)
      (unborn : refused = [] ∨
        ∃ invocation cause, refused = [.launched invocation (.error cause)]) :
    Ledger (lives.flatMap Life.calls ++ refused) stages .closed

theorem updateLast_concat {α : Type} (f : α → α) (l : List α) (a : α) :
    updateLast f (l ++ [a]) = l ++ [f a] := by
  induction l with
  | nil => rfl
  | cons b rest ih =>
    cases rest with
    | nil => rfl
    | cons => simpa [updateLast] using ih

namespace Ledger

variable {calls : List ToolCall} {stages : List StageReport} {process : ToolProcess}
  {occupation : Occupation}

theorem empty : Ledger [] [] .free := .free .nil (by simp)

/-- All calls are told, and no start has been refused. -/
theorem settled {lives : List Life} (told : List.Forall₂ StageReport.Tells stages lives)
    (good : ∀ r ∈ stages.dropLast, r.Good) : Ledger (lives.flatMap Life.calls) stages .closed := by
  have whole := Ledger.closed told good (.inl rfl)
  rwa [List.append_nil] at whole

theorem finished (ledger : Ledger calls stages .free) : Ledger calls stages .closed := by
  cases ledger with
  | free told good => exact settled told fun r there => good r (List.mem_of_mem_dropLast there)

theorem refused (ledger : Ledger calls stages .free) (invocation : Invocation)
    (cause : ErrorChain) :
    Ledger (calls ++ [.launched invocation (.error cause)]) stages .closed := by
  cases ledger with
  | free told good =>
    exact .closed told (fun r there => good r (List.mem_of_mem_dropLast there)) (.inr ⟨_, _, rfl⟩)

theorem started (ledger : Ledger calls stages .free) (invocation : Invocation)
    (process : ToolProcess) : Ledger (calls ++ [.launched invocation (.ok process)])
      (stages ++ [Job.openingReport invocation process]) (.held process) := by
  cases ledger with
  | free told good =>
    exact .held told good (StageReport.tells_openingReport invocation process) ⟨rfl, rfl⟩

/-- A wait that does not see the tool end leaves its report as it is. -/
theorem waited (ledger : Ledger calls stages (.held process)) {answer : Reply (Option ToolExit)}
    (going : ∀ exit, answer ≠ .ok (some exit)) :
    Ledger (calls ++ [.waited process answer]) stages (.held process) := by
  cases ledger with
  | held told good tells opened =>
    rw [List.append_assoc]
    refine .held told good (tells.goOn opened rfl ⟨rfl, rfl, rfl⟩ ?_ ?_) opened
    · intro code
      simp [opened.1, (going _).symm]
    · simp [opened.2]

/-- After a tool that has ended well the next one can be started. -/
theorem exited (ledger : Ledger calls stages (.held process)) (exit : ToolExit)
    (elapsedMs : UInt64) : Ledger (calls ++ [.waited process (.ok (some exit))])
      (updateLast (fun r => { r with exitCode := exit.code, elapsedMs }) stages)
      (if exit.success then .free else .closed) := by
  cases ledger with
  | @held stages lives last life told good tells opened =>
    have ended : StageReport.Tells { last with exitCode := exit.code, elapsedMs }
        (life.goOn (.waited life.process (.ok (some exit))) rfl) := by
      refine tells.goOn opened rfl ⟨rfl, rfl, rfl⟩ ?_ ?_
      · intro code
        obtain ⟨seen⟩ := exit
        simp [eq_comm]
      · simp [opened.2]
    have told' := List.rel_append told (.cons ended .nil)
    rw [updateLast_concat, ← Life.flatMap_goOn lives life _ rfl]
    split
    · rename_i success
      cases ToolExit.eq_of_success success
      exact .free told' (List.forall_mem_append.mpr ⟨good, by simp [StageReport.Good, opened.2]⟩)
    · exact settled told' (by simpa using good)

theorem killed (ledger : Ledger calls stages (.held process)) (answer : Reply Unit)
    (elapsedMs : UInt64) : Ledger (calls ++ [.killed process answer])
      (updateLast (fun r => { r with killed := true, elapsedMs }) stages) .closed := by
  cases ledger with
  | @held stages lives last life told good tells opened =>
    have dead : StageReport.Tells { last with killed := true, elapsedMs }
        (life.goOn (.killed life.process answer) rfl) := by
      -- only an open report is ever marked as killed, so it has no exit code
      refine tells.goOn opened rfl ⟨rfl, rfl, rfl⟩ ?_ ?_
      · simp [opened.1]
      · simp
    rw [updateLast_concat, ← Life.flatMap_goOn lives life _ rfl]
    exact settled (List.rel_append told (.cons dead .nil)) (by simpa using good)

/-- Whatever the job was at between its tools, it can end there. -/
theorem ended (ledger : Ledger calls stages occupation) (idle : occupation.process? = none) :
    Ledger calls stages .closed := by
  cases occupation with
  | free => exact ledger.finished
  | held process => cases idle
  | closed => exact ledger

/-- Whatever the job is at, the reports tell the lives. -/
theorem told (ledger : Ledger calls stages occupation) :
    ∃ (lives : List Life) (refused : List ToolCall), calls = lives.flatMap Life.calls ++ refused ∧
      (refused = [] ∨ ∃ invocation cause, refused = [.launched invocation (.error cause)]) ∧
      List.Forall₂ StageReport.Tells stages lives ∧ ∀ r ∈ stages.dropLast, r.Good := by
  cases ledger with
  | @free _ lives told good =>
    refine ⟨lives, [], (List.append_nil _).symm, .inl rfl, told, ?_⟩
    exact fun r there => good r (List.mem_of_mem_dropLast there)
  | @held _ lives _ life told good tells opened =>
    refine ⟨lives ++ [life], [], by simp, .inl rfl, List.rel_append told (.cons tells .nil), ?_⟩
    simpa using good
  | @closed _ lives refused told good unborn => exact ⟨lives, refused, rfl, unborn, told, good⟩

end Ledger

/-! ## The ledger of a job -/

namespace Job

variable {config : Config} {job job' : Job} {events : List ActEvent} {fault : Option Fault}
  {past : List ToolCall} {invocation : Invocation} {next last : JobState}

def occupation (job : Job) : Occupation :=
  if job.state.isTerminal then .closed
  else
    match job.running with
    | none => .free
    | some tool => .held tool.process

theorem occupation_of_terminal (ended : job.state.isTerminal = true) :
    job.occupation = .closed := by
  simp [occupation, ended]

theorem occupation_eq_free (active : job.state.isTerminal = false) (free : job.running = none) :
    job.occupation = .free := by
  simp [occupation, active, free]

theorem occupation_eq_held {tool : RunningTool} (active : job.state.isTerminal = false)
    (held : job.running = some tool) : job.occupation = .held tool.process := by
  simp [occupation, active, held]

/-- The ledger goes on with a job. Where a step ends in a fault it says which tool is still there
to be killed. -/
def Continues (fault : Option Fault) (calls : List ToolCall) (job : Job) : Prop :=
  ∃ occupation, Ledger calls job.stages occupation ∧
    occupation.process? = job.running.map (·.process) ∧
    (fault = none → occupation = job.occupation)

theorem Continues.broken {cause : Fault} (occupation : Occupation)
    (ledger : Ledger calls job.stages occupation)
    (left : occupation.process? = job.running.map (·.process)) : Continues (some cause) calls job :=
  ⟨occupation, ledger, left, nofun⟩

theorem Launch.ledger (launch : Launch job invocation next events job' fault)
    (active : next.isTerminal = false) (free : job.running = none)
    (ledger : Ledger past job.stages .free) :
    Continues fault (past ++ toolCalls events) job' := by
  cases launch with
  | refused cause => exact .broken .closed (ledger.refused invocation cause) (by simp [free])
  | started process time =>
    refine ⟨.held process, ledger.started invocation process, rfl, fun _ => ?_⟩
    simp [occupation, inState, hold, active]

theorem Move.ledger (coherent : job.Coherent) (active : job.state.isTerminal = false)
    (ledger : Ledger past job.stages job.occupation) (move : Move config job events job' fault) :
    Continues fault (past ++ toolCalls events) job' := by
  have waiting : ∀ {tool}, job.running = some tool →
      Ledger past job.stages (.held tool.process) := by
    intro tool held
    rwa [← occupation_eq_held active held]
  have exited : ∀ {tool} (exit) (time : Duration), job.running = some tool →
      Ledger (past ++ toolCalls (exitEvents tool exit time))
        (job.release exit (tool.elapsedMs time)).stages (if exit.success then .free else .closed) :=
    fun exit time held => (waiting held).exited exit _
  cases move with
  | office state _ launch =>
    have free := coherent.running_eq_none (by simp [state])
    rw [occupation_eq_free active free] at ledger
    exact launch.ledger rfl free ledger
  | raster _ state _ launch =>
    have free := coherent.running_eq_none (by simp [state])
    rw [occupation_eq_free active free] at ledger
    exact launch.ledger rfl free ledger
  | noTool _ free =>
    rw [occupation_eq_free active free] at ledger
    exact .broken .free (by simpa using ledger) (by simp [free])
  | waitRefused tool cause _ held =>
    exact .broken (.held tool.process) ((waiting held).waited (by simp)) (by simp [held])
  | atWork tool _ held =>
    refine ⟨_, (waiting held).waited (by simp), by simp [held], fun _ => ?_⟩
    exact (occupation_eq_held active held).symm
  | badExit tool exit time _ held bad =>
    have ended := exited exit time held
    rw [bad] at ended
    exact .broken .closed ended rfl
  | converted tool exit time state held good rest =>
    have ended := exited exit time held
    rw [good] at ended
    rw [toolCalls_append, ← List.append_assoc]
    cases rest with
    | listingFailed | missing => exact .broken .free (by simpa using ended) rfl
    | found entries path least launch =>
      rw [toolCalls_cons]
      exact launch.ledger rfl rfl ended
  | rasterized tool exit time state held good rest =>
    have ended := exited exit time held
    rw [good] at ended
    rw [toolCalls_append, ← List.append_assoc]
    cases rest with
    | kept | removed =>
      exact ⟨.closed, by simpa [inState] using ended.finished, rfl, fun _ => rfl⟩
    | removalFailed => exact .broken .free (by simpa using ended) rfl

theorem Abort.ledger {occupation : Occupation} (ledger : Ledger past job.stages occupation)
    (left : occupation.process? = job.running.map (·.process))
    (abort : Abort job last events job') :
    Ledger (past ++ toolCalls events) job'.stages .closed := by
  obtain ⟨kill, cleanup⟩ := abort
  rw [toolCalls_append, cleanup.toolCalls_eq_nil, List.append_nil]
  cases kill with
  | free none =>
    rw [toolCalls_nil, List.append_nil]
    exact ledger.ended (by simpa [none] using left)
  | killed tool time held | refused tool cause time held =>
    cases occupation with
    | free | closed => simp [held] at left
    | held process =>
      have same : process = tool.process := by simpa [held] using left
      rw [same] at ledger
      exact ledger.killed _ _

theorem occupation_process? (active : job.state.isTerminal = false) :
    job.occupation.process? = job.running.map (·.process) := by
  cases held : job.running with
  | none => rw [occupation_eq_free active held]; rfl
  | some tool => rw [occupation_eq_held active held]; rfl

theorem Abort.occupation (ended : last.isTerminal = true) (abort : Abort job last events job') :
    job'.occupation = .closed := by
  cases abort
  exact occupation_of_terminal ended

theorem Turn.ledger (coherent : job.Coherent) (active : job.state.isTerminal = false)
    (ledger : Ledger past job.stages job.occupation) (turn : Turn config job events job') :
    Ledger (past ++ toolCalls events) job'.stages job'.occupation := by
  cases turn with
  | moved move =>
    obtain ⟨occupation, moved, -, same⟩ := move.ledger coherent active ledger
    rwa [← same rfl]
  | failed fault move abort =>
    -- the state still says what the move began with, but `left` names the tool to be killed
    obtain ⟨occupation, moved, left, -⟩ := move.ledger coherent active ledger
    have ended := abort.ledger moved left
    rw [abort.occupation rfl]
    simpa using ended

theorem Chain.ledger (coherent : job.Coherent) (ledger : Ledger past job.stages job.occupation)
    (chain : Chain config job events job') :
    Ledger (past ++ toolCalls events) job'.stages job'.occupation := by
  induction chain generalizing past with
  | stay => simpa using ledger
  | pause idle _ ih =>
    rw [toolCalls_cons, idle.toolCall?_eq_none]
    exact ih coherent ledger
  | turn active turn _ ih =>
    rw [toolCalls_append, ← List.append_assoc]
    exact ih (coherent.turn turn) (turn.ledger coherent active ledger)
  | cancel active abort _ ih =>
    have ended := abort.ledger ledger (occupation_process? active)
    rw [← abort.occupation rfl] at ended
    rw [toolCalls_append, ← List.append_assoc]
    exact ih (abort.coherent (.inl rfl)) ended

end Job

open Job

/-! ## The report of a run -/

/-- The report tells of a job that has gone through `events`, is in `state` now, and has taken the
raster tool alone if `direct`. -/
structure JobReport.Tells (report : JobReport) (events : List ActEvent) (state : JobState)
    (direct : Bool) : Prop where
  /-- One report for each tool that was started, in that order. What is called belongs to one of
  these tools, and only a start that was refused, the last of all calls, belongs to none. -/
  stages : ∃ (lives : List Life) (refused : List ToolCall),
    toolCalls events = lives.flatMap Life.calls ++ refused ∧
    (refused = [] ∨ ∃ invocation cause, refused = [.launched invocation (.error cause)]) ∧
    List.Forall₂ StageReport.Tells report.stages lives ∧
    ((lives.map (·.process)).Nodup → ∀ life ∈ lives, ∀ call,
      call.process? = some life.process → (call ∈ toolCalls events ↔ call ∈ life.later))
  earlier : ∀ stage ∈ report.stages.dropLast, stage.Good
  failure : ∀ text, report.failure = some text ↔
    ∃ failure, state = .failed failure ∧ text = failure.kind.name ++ ": " ++ failure.reason
  skipped : report.skippedIntermediate = direct

theorem Job.report_tells {job : Job} {events : List ActEvent} {occupation : Occupation}
    (ledger : Ledger (toolCalls events) job.stages occupation) :
    job.report.Tells events job.state job.skippedIntermediate := by
  obtain ⟨lives, refused, split, unborn, told, good⟩ := ledger.told
  refine ⟨⟨lives, refused, split, unborn, told, ?_⟩, good, ?_, rfl⟩
  · intro distinct life there call own
    rw [split]
    refine Life.mem_later_iff distinct ?_ there own
    rcases unborn with rfl | ⟨invocation, cause, rfl⟩ <;> simp
  · intro text
    cases state : job.state <;> simp [report, state, Failure.describe, eq_comm]

namespace Converter

variable {c c' : Converter} {call : Call} {events : List ActEvent} {response : Response}
  {job : Job} {past : List ActEvent}

theorem Conduct.ledger (coherent : c.Coherent) (current : c.job = some job)
    (silent : response.registers = false)
    (ledger : Ledger (toolCalls past) job.stages job.occupation)
    (conduct : Conduct c call events response c') :
    ∃ job', c'.job = some job' ∧ SameIdentity job job' ∧
      Ledger (toolCalls (past ++ events)) job'.stages job'.occupation := by
  have untouched : ∀ {events : List ActEvent}, toolCalls events = [] →
      Ledger (toolCalls past ++ toolCalls events) job.stages job.occupation := by
    intro events nothing
    rwa [nothing, List.append_nil]
  rw [toolCalls_append]
  cases conduct with
  | busy => exact ⟨job, current, .refl job, untouched rfl⟩
  | rejected _ _ _ prepared => exact ⟨job, current, .refl job, untouched prepared.toolCalls_eq_nil⟩
  | registered => cases silent
  | listed => exact ⟨job, current, .refl job, untouched rfl⟩
  | worked _ _ works =>
    cases works with
    | idle pauses =>
      refine ⟨job, current, .refl job, untouched ?_⟩
      exact List.filterMap_eq_nil_iff.mpr fun e there => (pauses e there).toolCall?_eq_none
    | busy here chain =>
      rw [current] at here
      cases here
      exact ⟨_, rfl, chain.identity, chain.ledger (coherent job current) ledger⟩

variable {σ : Type} {r : Surroundings σ} {s s' : σ} {exchanges : List (Exchange σ)}

theorem Linked.ledger (linked : History.Linked r c s exchanges c' s') (coherent : c.Coherent)
    (current : c.job = some job) (silent : ∀ e ∈ exchanges, e.response.registers = false)
    (fresh : Ledger [] job.stages job.occupation) :
    ∃ job', c'.job = some job' ∧ SameIdentity job job' ∧
      Ledger (toolCalls (exchanges.flatMap (·.events))) job'.stages job'.occupation := by
  refine (Linked.carry (fun between events => between.Coherent ∧ ∃ job', between.job = some job' ∧
    SameIdentity job job' ∧ Ledger (toolCalls events) job'.stages job'.occupation) [] ?_ linked
    ⟨coherent, job, current, .refl job, fresh⟩).2
  rintro e there between past conduct ⟨coherent, job', current', same, ledger⟩
  obtain ⟨job'', current'', same', ledger'⟩ :=
    conduct.ledger coherent current' (silent e there) ledger
  exact ⟨coherent.conduct conduct, job'', current'', same.trans same', ledger'⟩

/-- A copy is staged where the source has the intermediate extension, and nowhere else. -/
theorem Preparation.isSome_staged {config : Config} {source workDir : Path} {staged : Option Path}
    (prepared : Preparation config source workDir events (.ok staged)) :
    staged.isSome = config.pipeline.isIntermediate source := by
  obtain ⟨copies, plain⟩ := prepared.staged_eq
  cases intermediate : config.pipeline.isIntermediate source with
  | false => rw [plain intermediate]; rfl
  | true =>
    obtain ⟨name, -, -, rfl⟩ := copies intermediate
    rfl

theorem Conduct.job_eq_none (free : c.job = none) (silent : response.registers = false)
    (conduct : Conduct c call events response c') : c'.job = none := by
  cases conduct with
  | busy | rejected | listed => exact free
  | registered => cases silent
  | worked _ _ works =>
    cases works with
    | idle => exact free
    | busy current => simp [free] at current

theorem Linked.job_eq_none (linked : History.Linked r c s exchanges c' s') (free : c.job = none)
    (silent : ∀ e ∈ exchanges, e.response.registers = false) : c'.job = none :=
  Linked.carry (fun between _ => between.job = none) []
    (fun e there _ _ conduct free => conduct.job_eq_none free (silent e there)) linked free

/-- A job that has come up has been registered, and the last start that has registered one has
registered this one. -/
theorem Linked.registration (linked : History.Linked r c s exchanges c' s') (free : c.job = none)
    (current : c'.job = some job) : ∃ earlier e during, exchanges = earlier ++ e :: during ∧
      e.response.registers = true ∧ ∀ x ∈ during, x.response.registers = false := by
  cases last : exchanges.reverse.find? (·.response.registers) with
  | none =>
    have silent : ∀ e ∈ exchanges, e.response.registers = false := by simpa using last
    rw [Linked.job_eq_none linked free silent] at current
    cases current
  | some e =>
    obtain ⟨registers, during, earlier, split, silent⟩ := List.find?_eq_some_iff_append.mp last
    have order : exchanges = earlier.reverse ++ e :: during.reverse := by
      have reversed := congrArg List.reverse split
      simpa using reversed
    exact ⟨earlier.reverse, e, during.reverse, order, registers, by simpa using silent⟩

/-- In every history the report of the current job tells what has happened since the start that has
registered it. -/
theorem report_matches_history {σ : Type} (r : Surroundings σ) (config : Config)
    (compiler : PatternCompiler) (calls : List Call) (s : σ) :
    let h := History.of r calls { config, compiler } s
    ∀ job, h.converter.job = some job → ∃ earlier e during source workDir report,
      h.exchanges = earlier ++ e :: during ∧ e.call = .start source workDir ∧
      e.response = .started (.ok job.handle) ∧ (∀ x ∈ during, x.response.registers = false) ∧
      h.converter.report job.handle = .ok report ∧
      report.Tells ((e :: during).flatMap (·.events)) job.state
        (config.pipeline.isIntermediate source) := by
  intro h job current
  have linked := History.of_linked r calls { config, compiler } s
  obtain ⟨earlier, e, during, split, registers, silent⟩ := Linked.registration linked rfl current
  rw [split] at linked
  obtain ⟨c, world, before, afterwards⟩ := History.linked_append.mp linked
  obtain ⟨conduct, onward⟩ := Linked.conduct afterwards
  have configured : c.config = config := Linked.config_eq before
  obtain ⟨source, workDir, staged, called, started, prepared, registered⟩ :=
    conduct.of_registers registers
  have coherent : e.after.Coherent := registered ▸ coherent_register source workDir staged
  -- the ledger of a job that has just been registered is still empty
  obtain ⟨last, current', same, ledger⟩ :=
    Linked.ledger onward coherent (by rw [registered]; rfl) silent .empty
  cases current.symm.trans current'
  refine ⟨earlier, e, during, source, workDir, job.report, split, called, ?_, silent,
    inspect_of_current current Job.report, ?_⟩
  · rw [started, same.handle]
  · have direct : job.skippedIntermediate = config.pipeline.isIntermediate source := by
      rw [same.skipped, ← configured]
      exact prepared.isSome_staged
    have whole : Ledger (toolCalls ((e :: during).flatMap (·.events))) job.stages
        job.occupation := by
      rwa [List.flatMap_cons, toolCalls_append, prepared.toolCalls_eq_nil]
    rw [← direct]
    exact Job.report_tells whole

/-- A rehearsal in which the office tool ends well and the raster tool is killed at work. -/
theorem rehearsed_report_of_killed_tool :
    let h := History.of Rehearsal.surroundings (Rehearsal.conversion.take 3 ++ [.cancel ⟨1⟩])
      { config := {} } Rehearsal.slides
    ∃ job, h.converter.job = some job ∧
      job.stages.map (fun r => (r.stage, r.exitCode, r.killed)) =
        [(.intermediate, some 0, false), (.images, none, true)] ∧
      ∃ earlier e during source workDir report,
        h.exchanges = earlier ++ e :: during ∧ e.call = .start source workDir ∧
        e.response = .started (.ok job.handle) ∧ (∀ x ∈ during, x.response.registers = false) ∧
        h.converter.report job.handle = .ok report ∧
        report.Tells ((e :: during).flatMap (·.events)) job.state
          (PipelineOptions.isIntermediate {} source) := by
  intro h
  have reported : h.converter.job.map
      (fun job => job.stages.map fun r => (r.stage, r.exitCode, r.killed)) =
      some [(.intermediate, some 0, false), (.images, none, true)] := by
    decide +kernel
  obtain ⟨job, current, stages⟩ := Option.map_eq_some_iff.mp reported
  have tells := report_matches_history Rehearsal.surroundings {} .standard
    (Rehearsal.conversion.take 3 ++ [.cancel ⟨1⟩]) Rehearsal.slides job current
  exact ⟨job, current, stages, tells⟩

end Converter

end SlideConverter

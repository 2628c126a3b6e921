import SlideConverter.Proofs.Conversion.Disk
import SlideConverter.Proofs.Conversion.Mishap
import SlideConverter.Proofs.Conversion.ToolLife
import SlideConverter.Proofs.FileTree.Change

/-!
# Cleaning up

A job that is given up, for whatever reason and in whichever call, ends the same way: its
tool is killed if there is one, its working directory is looked for and removed if it is
there, and nothing is asked for that job again. A job that finishes never has its working
directory removed.
-/

namespace SlideConverter

def JobState.isGivenUp : JobState → Bool
  | .cancelled | .failed _ => true
  | _ => false

theorem JobState.isTerminal_of_isGivenUp {state : JobState} (givenUp : state.isGivenUp = true) :
    state.isTerminal = true := by
  cases state <;> first | rfl | cases givenUp

/-- What is asked of the disk and of tools. -/
def isRequest : ActEvent → Bool
  | .asked .clock _ | .asked (.sleep _) _ | .noted _ => false
  | .asked _ _ => true

def requests (events : List ActEvent) : List ActEvent := events.filter isRequest

theorem requests_append (first second : List ActEvent) :
    requests (first ++ second) = requests first ++ requests second :=
  List.filter_append _ _

theorem toolCalls_requests (events : List ActEvent) :
    toolCalls (requests events) = toolCalls events := by
  induction events with
  | nil => rfl
  | cons event rest ih =>
    have forgotten : isRequest event = false → toolCall? event = none := by
      intro other
      cases event with
      | asked question answer => cases question <;> first | rfl | cases other
      | noted => rfl
    cases request : isRequest event with
    | true => simpa [requests, request] using ih
    | false =>
      rw [requests, List.filter_cons_of_neg (by simp [request]), ← requests, ih, toolCalls_cons,
        forgotten request]
      rfl

/-- Each of the given processes, of which there is at most one, is killed. -/
inductive Killing : List ToolProcess → List ActEvent → Prop
  | nothing : Killing [] []
  | killed (process : ToolProcess) (answer : Reply Unit) :
    Killing [process] [.asked (.kill process) answer]

/-- A working directory is looked for, and removed if it is there. -/
inductive Cleaning (workDir : Path) : List ActEvent → Prop
  | absent : Cleaning workDir [.asked (.pathExists workDir) false]
  | present (answer : Reply Unit) : Cleaning workDir
      [.asked (.pathExists workDir) true, .asked (.removeDirAll workDir) answer]

namespace Job

variable {config : Config} {job job' : Job} {events first second : List ActEvent}

theorem Kill.killing (kill : Kill job events job') :
    Killing job.watch.process?.toList (requests events) := by
  cases kill with
  | free none =>
    rw [watch_eq_idle none]
    exact .nothing
  | killed tool time held =>
    rw [watch_eq_busy held]
    exact .killed tool.process (.ok ())
  | refused tool cause time held =>
    rw [watch_eq_busy held]
    exact .killed tool.process (.error cause)

theorem Cleanup.cleaning {workDir : Path} (cleanup : Cleanup workDir events) :
    Cleaning workDir (requests events) := by
  cases cleanup with
  | absent => exact .absent
  | removed => exact .present (.ok ())
  | refused cause => exact .present (.error cause)

/-- A job is given up after some work, holding the tool that is left to the watch then. -/
inductive Surrender (job : Job) : List ActEvent → Job → Prop
  | mk {held job' : Job} {last : JobState} {work giving : List ActEvent} {watch : Watch}
      (worked : ∀ e ∈ requests work, Working e)
      (followed : job.watch.follow (toolCalls work) = some watch)
      (holds : watch.process? = held.watch.process?) (same : held.workDir = job.workDir)
      (abort : Abort held last giving job') : Surrender job (work ++ giving) job'

theorem Abort.surrender {last : JobState} (abort : Abort job last events job') :
    Surrender job events job' := by
  have here : Surrender job ([] ++ events) job' := .mk (by simp [requests]) rfl rfl rfl abort
  exact here

theorem Surrender.after {between : Job} (worked : ∀ e ∈ requests first, Working e)
    (followed : job.watch.follow (toolCalls first) = some between.watch)
    (same : between.workDir = job.workDir) (rest : Surrender between second job') :
    Surrender job (first ++ second) job' := by
  obtain ⟨worked', followed', holds, same', abort⟩ := rest
  rw [← List.append_assoc]
  refine .mk ?_ ?_ holds (same'.trans same) abort
  · rw [requests_append]
    exact List.forall_mem_append.mpr ⟨worked, worked'⟩
  · rw [toolCalls_append]
    exact Watch.follow_trans followed followed'

/-- Beside what a move asks, nothing that is no request counts. -/
theorem Move.worked {fault : Option Fault} (move : Move config job events job' fault)
    {others : List ActEvent} (silent : requests others = []) :
    ∀ e ∈ requests (events ++ others), Working e := by
  rw [requests_append, silent, List.append_nil]
  intro e there
  exact move.working e (List.mem_filter.mp there).1

/-- A move without a fault does not give the job up. -/
theorem Move.not_isGivenUp (active : job.state.isTerminal = false)
    (move : Move config job events job' none) : job'.state.isGivenUp = false := by
  cases move with
  | office _ _ launch => cases launch; rfl
  | raster _ _ _ launch => cases launch; rfl
  | atWork =>
    cases up : job.state.isGivenUp with
    | false => rfl
    | true => simp [JobState.isTerminal_of_isGivenUp up] at active
  | converted _ _ _ _ _ _ rest =>
    cases rest with
    | found _ _ _ launch => cases launch; rfl
  | rasterized _ _ _ _ _ _ rest => cases rest <;> rfl

theorem Turn.surrender (coherent : job.Coherent) (active : job.state.isTerminal = false)
    (turn : Turn config job events job') (givenUp : job'.state.isGivenUp = true) :
    Surrender job events job' := by
  cases turn with
  | moved move => simp [move.not_isGivenUp active] at givenUp
  | @failed working cleaning faulty _ fault move abort =>
    obtain ⟨watch, followed, holds, -⟩ := move.watch coherent
    have here : Surrender job
        ((working ++ [.noted (.jobFailed faulty.handle fault.failure)]) ++ cleaning) job' := by
      refine .mk (move.worked rfl) ?_ holds move.identity.workDir abort
      simpa using followed
    simpa using here

/-- The requests of a call in which a job is given up: work, the kill, and the cleaning. -/
theorem Surrender.split (surrender : Surrender job events job') :
    job'.workDir = job.workDir ∧ ∃ work killing cleaning watch,
      requests events = work ++ killing ++ cleaning ∧ (∀ e ∈ work, Working e) ∧
      job.watch.follow (toolCalls work) = some watch ∧ Killing watch.process?.toList killing ∧
      Cleaning job.workDir cleaning := by
  obtain ⟨worked, followed, holds, same, abort⟩ := surrender
  have place := abort.identity.workDir.trans same
  obtain ⟨kill, cleanup⟩ := abort
  have killed := kill.killing
  rw [← holds] at killed
  rw [same] at cleanup
  rw [← toolCalls_requests] at followed
  refine ⟨place, _, _, _, _, ?_, worked, followed, killed, cleanup.cleaning⟩
  rw [requests_append, requests_append, ← List.append_assoc]

/-- Nothing happens to a job that has ended. -/
theorem Chain.of_terminal (ended : job.state.isTerminal = true)
    (chain : Chain config job events job') : job' = job ∧ ∀ e ∈ events, Pause e := by
  induction chain with
  | stay => exact ⟨rfl, by simp⟩
  | pause idle _ ih =>
    obtain ⟨same, pauses⟩ := ih ended
    exact ⟨same, List.forall_mem_cons.mpr ⟨idle, pauses⟩⟩
  | turn active => simp [ended] at active
  | cancel active => simp [ended] at active

theorem requests_eq_nil_of_pauses (pauses : ∀ e ∈ events, Pause e) : requests events = [] := by
  refine List.filter_eq_nil_iff.mpr ?_
  intro e there
  cases pauses e there <;> simp [isRequest]

/-! ## On a disk -/

/-- After the cleaning the working directory is gone, unless its removal was refused. -/
theorem Cleanup.gone {σ : Type} {r : Surroundings σ} {tree : σ → FileTree}
    {writes : FileTree → FileTree → Prop} {workDir : Path} {s s' : σ}
    (onDisk : OnDisk r tree writes)
    (cleanup : Cleanup workDir events) (answers : r.Answers s events s')
    (granted : ∀ cause, .asked (.removeDirAll workDir) (.error cause) ∉ events) :
    (tree s').pathExists workDir = false := by
  cases cleanup with
  | absent =>
    obtain ⟨answered, rfl⟩ := answers
    obtain ⟨t, -, same, after⟩ := onDisk.disk (.pathExists workDir) s rfl
    rw [after]
    exact same.symm.trans answered
  | removed =>
    obtain ⟨-, answered, rfl⟩ := answers
    obtain ⟨t, -, same, after⟩ :=
      onDisk.disk (.removeDirAll workDir) (r.answer (.pathExists workDir) s).2 rfl
    rw [after]
    refine FileTree.pathExists_of_removed ?_
    have ok := same.symm.trans answered
    change FileTree.attempted _ (t.removeDirectoryAll workDir).1 = .ok () at ok
    cases result : (t.removeDirectoryAll workDir).1 with
    | error cause => simp [result, FileTree.attempted] at ok
    | ok done => rfl
  | refused cause => exact absurd (by simp) (granted cause)

theorem Surrender.gone {σ : Type} {r : Surroundings σ} {tree : σ → FileTree}
    {writes : FileTree → FileTree → Prop} {s s' : σ} (onDisk : OnDisk r tree writes)
    (surrender : Surrender job events job') (answers : r.Answers s events s')
    (granted : ∀ cause, .asked (.removeDirAll job.workDir) (.error cause) ∉ events) :
    (tree s').pathExists job.workDir = false := by
  obtain ⟨-, -, -, same, abort⟩ := surrender
  obtain ⟨-, cleanup⟩ := abort
  rw [same] at cleanup
  obtain ⟨_, -, giving⟩ := Respondent.answers_append.mp answers
  obtain ⟨_, -, cleaning⟩ := Respondent.answers_append.mp giving
  refine Cleanup.gone onDisk cleanup cleaning fun cause refused => granted cause ?_
  simp [refused]

end Job

open Job

namespace Converter

variable {c c' : Converter} {call : Call} {events : List ActEvent} {response : Response}
  {job job' : Job}

theorem Poll.surrender {handle : JobHandle} {result : Except ConversionError PollResult}
    (coherent : c.Coherent) (current : c.job = some job) (active : job.state.isTerminal = false)
    (current' : c'.job = some job') (givenUp : job'.state.isGivenUp = true)
    (poll : Poll c handle events result c') : Surrender job events job' := by
  have changed : c'.job ≠ c.job := by
    rw [current, current']
    rintro ⟨⟩
    simp [JobState.isTerminal_of_isGivenUp givenUp] at active
  cases poll with
  | unknown | ended => exact absurd rfl changed
  | turned known _ turn =>
    obtain ⟨here, -⟩ := find?_eq_some.mp known
    rw [current] at here
    cases here
    cases current'
    exact turn.surrender (coherent job current) active givenUp

theorem Cancel.surrender {handle : JobHandle} {result : Except ConversionError Unit}
    (current : c.job = some job) (active : job.state.isTerminal = false)
    (current' : c'.job = some job') (givenUp : job'.state.isGivenUp = true)
    (cancel : Cancel c handle events result c') : Surrender job events job' := by
  have changed : c'.job ≠ c.job := by
    rw [current, current']
    rintro ⟨⟩
    simp [JobState.isTerminal_of_isGivenUp givenUp] at active
  cases cancel with
  | unknown | ended => exact absurd rfl changed
  | aborted known _ abort =>
    obtain ⟨here, -⟩ := find?_eq_some.mp known
    rw [current] at here
    cases here
    cases current'
    exact abort.surrender

/-- A poll that goes on has moved the job and not ended it. -/
theorem Poll.going {handle : JobHandle} {result : PollResult} (current : c.job = some job)
    (active : job.state.isTerminal = false) (poll : Poll c handle events (.ok result) c')
    (going : result.isTerminal = false) :
    ∃ job', c'.job = some job' ∧ Move c.config job events job' none ∧
      job'.state.isTerminal = false := by
  cases poll with
  | ended known terminal =>
    obtain ⟨here, -⟩ := find?_eq_some.mp known
    rw [current] at here
    cases here
    simp [active] at terminal
  | turned known _ turn =>
    obtain ⟨here, -⟩ := find?_eq_some.mp known
    rw [current] at here
    cases here
    rw [PollResult.isTerminal_ofState] at going
    cases turn with
    | moved move => exact ⟨_, rfl, move, going⟩
    | failed fault move abort =>
      cases abort
      cases going

theorem Run.surrender {handle : JobHandle} {interval started : Duration}
    {deadline : Option Duration} {ticks : Nat}
    {result : Option (Except ConversionError PollResult)} (coherent : c.Coherent)
    (current : c.job = some job) (active : job.state.isTerminal = false)
    (current' : c'.job = some job') (givenUp : job'.state.isGivenUp = true)
    (run : Run handle interval deadline started ticks c events result c') :
    Surrender job events job' := by
  induction run generalizing job with
  | exhausted =>
    rw [current] at current'
    cases current'
    simp [JobState.isTerminal_of_isGivenUp givenUp] at active
  | refused poll => exact poll.surrender coherent current active current' givenUp
  | ended poll => exact poll.surrender coherent current active current' givenUp
  | @late _ _ between _ polling cancelling _ poll going now limit _ cancel =>
    obtain ⟨job₁, current₁, move, active₁⟩ := poll.going current active going
    obtain ⟨watch, followed, -, settled⟩ := move.watch (coherent job current)
    have rest := cancel.surrender current₁ active₁ current' givenUp
    have here : Surrender job ((polling ++ [.asked .clock now,
        .noted (.deadlineExceeded handle limit)]) ++ cancelling) job' := by
      refine rest.after (move.worked rfl) ?_ move.identity.workDir
      simpa [settled rfl] using followed
    simpa using here
  | @again _ _ between _ polling later _ _ poll going now _ slept rest ih =>
    obtain ⟨job₁, current₁, move, active₁⟩ := poll.going current active going
    obtain ⟨watch, followed, -, settled⟩ := move.watch (coherent job current)
    have rest := ih (coherent.works poll.works) current₁ active₁ current'
    have here : Surrender job ((polling ++ [.asked .clock now,
        .asked (.sleep interval) slept]) ++ later) job' := by
      refine rest.after (move.worked rfl) ?_ move.identity.workDir
      simpa [settled rfl] using followed
    simpa using here

/-- In whichever call a job is given up, it is surrendered there. -/
theorem respond_surrender (coherent : c.Coherent) (current : c.job = some job)
    (active : job.state.isTerminal = false) (current' : c'.job = some job')
    (givenUp : job'.state.isGivenUp = true)
    (course : (c.respond call).Course events (response, c')) : Surrender job events job' := by
  have changed : c'.job ≠ c.job := by
    rw [current, current']
    rintro ⟨⟩
    simp [JobState.isTerminal_of_isGivenUp givenUp] at active
  cases call with
  | start source workDir =>
    obtain ⟨⟨result, next⟩, started, same⟩ := Dialogue.course_reshape course fun _ => rfl
    cases same
    cases start_conduct started with
    | busy | rejected => exact absurd rfl changed
    | registered _ _ idle =>
      simp [activeJob?, current, active] at idle
    | worked other => cases other
  | poll handle =>
    obtain ⟨_, polled, same⟩ := Dialogue.course_reshape course fun _ => rfl
    cases same
    exact (poll_course polled).surrender coherent current active current' givenUp
  | cancel handle =>
    obtain ⟨_, cancelled, same⟩ := Dialogue.course_reshape course fun _ => rfl
    cases same
    exact (cancel_course cancelled).surrender current active current' givenUp
  | collectSlides handle =>
    obtain ⟨_, -, same⟩ := Dialogue.course_reshape course fun _ => rfl
    cases same
    exact absurd rfl changed
  | state | workDir | report =>
    obtain ⟨-, same⟩ := Dialogue.course_pure.mp course
    cases same
    exact absurd rfl changed
  | run handle interval deadline maxTicks =>
    obtain ⟨_, ran, same⟩ := Dialogue.course_reshape course fun _ => rfl
    cases same
    obtain ⟨started, rest, rfl, ticked⟩ := course_ask_bind.mp ran
    have surrender := (run_course ticked).surrender coherent current active current' givenUp
    have here : Surrender job ([.asked .clock started] ++ rest) job' :=
      surrender.after (by simp [requests, isRequest]) rfl rfl
    exact here
  | close =>
    obtain ⟨_, closed, same⟩ := Dialogue.course_reshape course fun _ => rfl
    cases same
    cases close_course closed with
    | quiet => exact absurd rfl changed
    | @dropped _ _ giving here _ abort =>
      rw [current] at here
      cases here
      cases current'
      have noted : Surrender job
          ([.noted (.droppedWhile job.handle job.state)] ++ giving) job' :=
        abort.surrender.after (by simp [requests, isRequest]) rfl rfl
      exact noted

/-! ## Afterwards -/

theorem Works.of_terminal (current : c.job = some job) (ended : job.state.isTerminal = true)
    (works : Works c events c') : c' = c ∧ ∀ e ∈ events, Pause e := by
  cases works with
  | idle pauses => exact ⟨rfl, pauses⟩
  | busy here chain =>
    rw [current] at here
    cases here
    obtain ⟨rfl, pauses⟩ := chain.of_terminal ended
    exact ⟨withJob_self current, pauses⟩

theorem Conduct.after_isGivenUp (current : c.job = some job)
    (givenUp : job.state.isGivenUp = true) (silent : response.registers = false)
    (conduct : Conduct c call events response c') :
    c' = c ∧ (call.isStart = false → requests events = []) := by
  have ended := JobState.isTerminal_of_isGivenUp givenUp
  cases conduct with
  | busy => exact ⟨rfl, nofun⟩
  | rejected => exact ⟨rfl, nofun⟩
  | registered => cases silent
  | listed _ known finished =>
    obtain ⟨here, -⟩ := find?_eq_some.mp known
    rw [current] at here
    cases here
    simp [finished, JobState.isGivenUp] at givenUp
  | worked _ _ works =>
    obtain ⟨same, pauses⟩ := works.of_terminal current ended
    exact ⟨same, fun _ => requests_eq_nil_of_pauses pauses⟩

theorem Linked.after_isGivenUp {σ : Type} {r : Surroundings σ} {s s' : σ}
    {exchanges : List (Exchange σ)} (linked : History.Linked r c s exchanges c' s')
    (current : c.job = some job) (givenUp : job.state.isGivenUp = true)
    (silent : ∀ e ∈ exchanges, e.response.registers = false) :
    c' = c ∧ ∀ e ∈ exchanges, e.after = c ∧ (e.call.isStart = false → requests e.events = []) := by
  induction exchanges generalizing s with
  | nil =>
    obtain ⟨rfl, -⟩ := linked
    exact ⟨rfl, by simp⟩
  | cons e rest ih =>
    obtain ⟨conduct, later⟩ := Linked.conduct linked
    obtain ⟨silentHere, silentLater⟩ := List.forall_mem_cons.mp silent
    obtain ⟨unchanged, quiet⟩ := conduct.after_isGivenUp current givenUp silentHere
    rw [unchanged] at later
    obtain ⟨last, each⟩ := ih later silentLater
    exact ⟨last, List.forall_mem_cons.mpr ⟨⟨unchanged, quiet⟩, each⟩⟩

/-! ## Finished jobs -/

/-- Where a working directory is removed, the job is given up. -/
theorem Chain.isGivenUp_of_removal {config : Config} {path : Path} {answer : Reply Unit}
    (chain : Chain config job events job')
    (removed : .asked (.removeDirAll path) answer ∈ events) : job'.state.isGivenUp = true := by
  have stays : ∀ {between later events}, between.state.isGivenUp = true →
      Chain config between events later → later.state.isGivenUp = true := by
    intro between later events givenUp rest
    obtain ⟨rfl, -⟩ := rest.of_terminal (JobState.isTerminal_of_isGivenUp givenUp)
    exact givenUp
  induction chain with
  | stay => cases removed
  | pause idle _ ih =>
    rcases List.mem_cons.mp removed with rfl | later
    · cases idle
    · exact ih later
  | turn active turn rest ih =>
    rcases List.mem_append.mp removed with here | later
    · cases turn with
      | moved move => cases move.working _ here
      | failed fault move abort =>
        cases abort
        exact stays rfl rest
    · exact ih later
  | cancel active abort rest ih =>
    rcases List.mem_append.mp removed with here | later
    · cases abort
      exact stays rfl rest
    · exact ih later

theorem Conduct.isGivenUp_of_removal {path : Path} {answer : Reply Unit}
    (other : call.isStart = false) (conduct : Conduct c call events response c')
    (removed : .asked (.removeDirAll path) answer ∈ events) :
    ∃ job, c'.job = some job ∧ job.state.isGivenUp = true := by
  cases conduct with
  | busy | rejected | registered => cases other
  | listed => simp at removed
  | worked _ _ works =>
    cases works with
    | idle pauses => cases pauses _ removed
    | busy _ chain => exact ⟨_, rfl, Chain.isGivenUp_of_removal chain removed⟩

theorem Preparation.not_removed {config : Config} {source workDir : Path} {staged : Option Path}
    (prepared : Preparation config source workDir events (.ok staged)) (path : Path)
    (answer : Reply Unit) : .asked (.removeDirAll path) answer ∉ events := by
  cases prepared with
  | housed preexisting _ house stage =>
    cases house with
    | made =>
      cases stage <;> cases preexisting <;> simp [inspection]

theorem Linked.not_removed {σ : Type} {r : Surroundings σ} {s s' : σ}
    {exchanges : List (Exchange σ)} (linked : History.Linked r c s exchanges c' s')
    (current : c'.job = some job) (kept : job.state.isGivenUp = false)
    (silent : ∀ e ∈ exchanges, e.response.registers = false) (path : Path) (answer : Reply Unit) :
    ∀ e ∈ exchanges, e.call.isStart = false → .asked (.removeDirAll path) answer ∉ e.events := by
  intro e there other removed
  obtain ⟨earlier, later, rfl⟩ := List.append_of_mem there
  obtain ⟨before, world, -, rest⟩ := History.linked_append.mp linked
  obtain ⟨conduct, onward⟩ := Linked.conduct rest
  obtain ⟨gone, current', givenUp⟩ := conduct.isGivenUp_of_removal other removed
  have silentLater : ∀ x ∈ later, x.response.registers = false := fun x within =>
    silent x (List.mem_append_right _ (List.mem_cons_of_mem _ within))
  obtain ⟨unchanged, -⟩ := Linked.after_isGivenUp onward current' givenUp silentLater
  rw [unchanged, current'] at current
  cases current
  simp [givenUp] at kept

/-- A start that registers a job removes nothing. -/
theorem Conduct.not_removed (registers : response.registers = true)
    (conduct : Conduct c call events response c') (path : Path) (answer : Reply Unit) :
    .asked (.removeDirAll path) answer ∉ events := by
  cases conduct with
  | busy | rejected | listed => cases registers
  | registered _ _ _ prepared => exact prepared.not_removed path answer
  | worked _ silent => simp [registers] at silent

/-- In every history, where a job is given up, its work in that call is followed by the kill of
the tool that is alive, if there is one, and by the cleaning, and later calls ask nothing for that
job; so on a disk the working directory is gone unless its removal was refused. Whatever comes of
kills and removals makes no difference to what is settled. Nothing is ever removed for a job that
finishes. -/
theorem work_dir_removed_when_given_up {σ : Type} (r : Surroundings σ) (config : Config)
    (compiler : PatternCompiler) (calls : List Call) (s : σ) :
    let h := History.of r calls { config, compiler } s
    (∀ earlier e later job job', h.exchanges = earlier ++ e :: later →
      e.before.job = some job → job.state.isTerminal = false →
      e.after.job = some job' → job'.state.isGivenUp = true →
      (∃ work killing cleaning, requests e.events = work ++ killing ++ cleaning ∧
        (∀ event ∈ work, Working event) ∧
        Killing (live (toolCalls (earlier.flatMap (·.events) ++ work))) killing ∧
        Cleaning job.workDir cleaning) ∧
      (∀ between e' rest, later = between ++ e' :: rest →
        (∀ x ∈ between ++ [e'], x.response.registers = false) →
        e'.after = e.after ∧ (e'.call.isStart = false → requests e'.events = [])) ∧
      (∀ tree writes, OnDisk r tree writes →
        (∀ cause, .asked (.removeDirAll job.workDir) (.error cause) ∉ e.events) →
        (tree e.world).pathExists job.workDir = false)) ∧
    (∀ {τ : Type} (r' : Surroundings τ) (related : σ → τ → Prop), Alike r r' related →
      ∀ s', related s s' → (History.of r' calls { config, compiler } s').exchanges.map (·.settled) =
        h.exchanges.map (·.settled)) ∧
    (∀ earlier e later job, h.exchanges = earlier ++ e :: later → e.response.registers = true →
      (∀ x ∈ later, x.response.registers = false) →
      h.converter.job = some job → job.state = .finished →
      ∀ path answer, .asked (.removeDirAll path) answer ∉ e.events ∧
        ∀ x ∈ later, x.call.isStart = false → .asked (.removeDirAll path) answer ∉ x.events) := by
  intro h
  have linked := History.of_linked r calls { config, compiler } s
  refine ⟨?_, ?_, ?_⟩
  · intro earlier e later job job' split current active current' givenUp
    rw [split] at linked
    obtain ⟨c, world, before, same, performed, onward⟩ := History.linked_append.mp linked
    cases same
    obtain ⟨coherent, -⟩ := (coherent_initial config compiler).linked before
    have genuine := History.genuine_of_perform rfl performed
    have surrender := respond_surrender coherent current active current' givenUp genuine
    refine ⟨?_, ?_, ?_⟩
    · obtain ⟨-, work, killing, cleaning, watch, parts, worked, followed, killed, cleaned⟩ :=
        surrender.split
      refine ⟨work, killing, cleaning, parts, worked, ?_, cleaned⟩
      have sofar := (coherent_initial config compiler).watch_linked before
      rw [watch_eq_of_job current] at sofar
      rw [toolCalls_append, Watch.live_of_follow (Watch.follow_trans sofar followed)]
      exact killed
    · intro between e' rest split' silent
      rw [split', List.append_cons] at onward
      obtain ⟨last, world', through, -⟩ := History.linked_append.mp onward
      obtain ⟨-, each⟩ := Linked.after_isGivenUp through current' givenUp silent
      exact each e' (by simp)
    · intro tree writes onDisk granted
      have answers := Respondent.answers_perform r (e.before.respond e.call) world
      rw [performed] at answers
      exact surrender.gone onDisk answers granted
  · intro τ r' related alike s' here
    exact (History.settled_eq alike calls { config, compiler } here).symm
  · intro earlier e later job split registers silent current finished path answer
    rw [split] at linked
    obtain ⟨c, world, before, same, performed, onward⟩ := History.linked_append.mp linked
    have genuine := History.genuine_of_perform same performed
    constructor
    · exact (respond_conduct genuine).not_removed registers path answer
    · exact Linked.not_removed onward current (by simp [finished, JobState.isGivenUp]) silent path
        answer

end Converter

end SlideConverter

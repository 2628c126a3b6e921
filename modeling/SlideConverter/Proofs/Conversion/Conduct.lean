import SlideConverter.Proofs.Conversion.History
import SlideConverter.Proofs.Conversion.Preparation

/-!
# What a converter can do

Every call but a start works on the current job, if it does anything at all: by a chain of
turns, where a turn is one look at an active job, or by giving the job up. A start either
registers a job or leaves the converter as it was. So what holds of each change of a job
holds of every history (`Converter.Conduct`).
-/

namespace SlideConverter

/-- What a poll says is final where the state is. -/
@[simp] theorem PollResult.isTerminal_ofState (state : JobState) :
    (PollResult.ofState state).isTerminal = state.isTerminal := by
  cases state <;> rfl

namespace Job

variable {config : Config} {job job' : Job} {events first second : List ActEvent}

/-- What never changes in a job. -/
structure SameIdentity (job job' : Job) : Prop where
  handle : job'.handle = job.handle
  source : job'.source = job.source
  workDir : job'.workDir = job.workDir
  skipped : job'.skippedIntermediate = job.skippedIntermediate

theorem SameIdentity.refl (job : Job) : SameIdentity job job := ⟨rfl, rfl, rfl, rfl⟩

theorem SameIdentity.trans {a b c : Job} (ab : SameIdentity a b) (bc : SameIdentity b c) :
    SameIdentity a c :=
  ⟨bc.handle.trans ab.handle, bc.source.trans ab.source, bc.workDir.trans ab.workDir,
    bc.skipped.trans ab.skipped⟩

theorem Launch.identity {invocation : Invocation} {next : JobState} {fault : Option Fault}
    (launch : Launch job invocation next events job' fault) : SameIdentity job job' := by
  cases launch <;> exact ⟨rfl, rfl, rfl, rfl⟩

theorem Move.identity {fault : Option Fault} (move : Move config job events job' fault) :
    SameIdentity job job' := by
  cases move with
  | office _ _ launch => exact launch.identity
  | raster _ _ _ launch => exact launch.identity
  | noTool | waitRefused | atWork | badExit => exact ⟨rfl, rfl, rfl, rfl⟩
  | converted tool exit time _ _ _ rest =>
    cases rest with
    | listingFailed | missing => exact ⟨rfl, rfl, rfl, rfl⟩
    | found _ _ _ launch => exact ⟨launch.identity.handle, launch.identity.source,
        launch.identity.workDir, launch.identity.skipped⟩
  | rasterized tool exit time _ _ _ rest => cases rest <;> exact ⟨rfl, rfl, rfl, rfl⟩

/-- A fault leaves it to the caller where the job goes. -/
theorem Move.state_of_fault {fault : Fault} (move : Move config job events job' (some fault)) :
    job'.state = job.state := by
  cases move with
  | office _ _ launch => cases launch; rfl
  | raster _ _ _ launch => cases launch; rfl
  | noTool | waitRefused | badExit => rfl
  | converted tool exit time _ _ _ rest =>
    cases rest with
    | listingFailed | missing => rfl
    | found _ _ _ launch => cases launch; rfl
  | rasterized tool exit time _ _ _ rest => cases rest; rfl

theorem Kill.identity (kill : Kill job events job') : SameIdentity job job' := by
  cases kill <;> exact ⟨rfl, rfl, rfl, rfl⟩

theorem Abort.identity {last : JobState} (abort : Abort job last events job') :
    SameIdentity job job' := by
  obtain ⟨kill, -⟩ := abort
  exact ⟨kill.identity.handle, kill.identity.source, kill.identity.workDir, kill.identity.skipped⟩

/-! ## Turns and chains -/

/-- One look at an active job. -/
inductive Turn (config : Config) (job : Job) : List ActEvent → Job → Prop
  | moved {events : List ActEvent} {job' : Job} (move : Move config job events job' none) :
    Turn config job events job'
  | failed {events cleaning : List ActEvent} {faulty job' : Job} (fault : Fault)
      (move : Move config job events faulty (some fault))
      (abort : Abort faulty (.failed fault.failure) cleaning job') :
    Turn config job (events ++ .noted (.jobFailed faulty.handle fault.failure) :: cleaning) job'

/-- What happens between the changes of a job. -/
inductive Pause : ActEvent → Prop
  | clock (time : Duration) : Pause (.asked .clock time)
  | sleep (duration : Duration) (done : Unit) : Pause (.asked (.sleep duration) done)
  | dropped (handle : JobHandle) (state : JobState) : Pause (.noted (.droppedWhile handle state))
  | deadline (handle : JobHandle) (deadline : Duration) :
    Pause (.noted (.deadlineExceeded handle deadline))

inductive Chain (config : Config) : Job → List ActEvent → Job → Prop
  | stay (job : Job) : Chain config job [] job
  | pause {job job' : Job} {event : ActEvent} {events : List ActEvent} (idle : Pause event)
      (rest : Chain config job events job') : Chain config job (event :: events) job'
  | turn {job between job' : Job} {first second : List ActEvent}
      (active : job.state.isTerminal = false) (turn : Turn config job first between)
      (rest : Chain config between second job') : Chain config job (first ++ second) job'
  | cancel {job between job' : Job} {first second : List ActEvent}
      (active : job.state.isTerminal = false) (abort : Abort job .cancelled first between)
      (rest : Chain config between second job') : Chain config job (first ++ second) job'

theorem Chain.append {job between job' : Job} (before : Chain config job first between)
    (after : Chain config between second job') : Chain config job (first ++ second) job' := by
  induction before with
  | stay => exact after
  | pause idle _ ih => exact .pause idle (ih after)
  | turn active turn _ ih =>
    rw [List.append_assoc]
    exact .turn active turn (ih after)
  | cancel active abort _ ih =>
    rw [List.append_assoc]
    exact .cancel active abort (ih after)

theorem Chain.pauses {job : Job} (idle : ∀ e ∈ events, Pause e) : Chain config job events job := by
  induction events with
  | nil => exact .stay job
  | cons event rest ih =>
    exact .pause (idle event List.mem_cons_self)
      (ih fun e he => idle e (List.mem_cons_of_mem event he))

theorem Turn.identity (turn : Turn config job events job') : SameIdentity job job' := by
  cases turn with
  | moved move => exact move.identity
  | failed _ move abort => exact move.identity.trans abort.identity

theorem Chain.identity (chain : Chain config job events job') : SameIdentity job job' := by
  induction chain with
  | stay job => exact .refl job
  | pause _ _ ih => exact ih
  | turn _ turn _ ih => exact turn.identity.trans ih
  | cancel _ abort _ ih => exact abort.identity.trans ih

end Job

open Job

namespace Converter

variable {c c' c'' : Converter} {events first second : List ActEvent}

def withJob (c : Converter) (job : Job) : Converter := { c with job := some job }

theorem withJob_self {job : Job} (current : c.job = some job) : c.withJob job = c := by
  rw [withJob, ← current]

/-- Nothing but pauses, or a chain of changes of the current job. -/
inductive Works (c : Converter) : List ActEvent → Converter → Prop
  | idle {events : List ActEvent} (pauses : ∀ e ∈ events, Pause e) : Works c events c
  | busy {events : List ActEvent} {job job' : Job} (current : c.job = some job)
      (chain : Chain c.config job events job') : Works c events (c.withJob job')

theorem Works.append (before : Works c first c') (after : Works c' second c'') :
    Works c (first ++ second) c'' := by
  cases before with
  | idle pauses =>
    cases after with
    | idle more =>
      exact .idle fun e he => (List.mem_append.mp he).elim (pauses e) (more e)
    | busy current chain => exact .busy current ((Chain.pauses pauses).append chain)
  | busy current chain =>
    cases after with
    | idle more => exact .busy current (chain.append (.pauses more))
    | busy current' chain' =>
      cases current'
      exact .busy current (chain.append chain')

theorem Works.nothing (c : Converter) : Works c [] c := .idle fun _ he => by cases he

theorem Works.pause {event : ActEvent} (idle : Pause event) (rest : Works c events c') :
    Works c (event :: events) c' := by
  have first : Works c [event] c := .idle fun _ he => List.mem_singleton.mp he ▸ idle
  exact first.append rest

theorem find?_eq_some {handle : JobHandle} {job : Job} :
    c.find? handle = some job ↔ c.job = some job ∧ job.handle = handle := by
  simp [find?, Option.filter_eq_some_iff]

theorem activeJob?_eq_some {job : Job} :
    c.activeJob? = some job ↔ c.job = some job ∧ job.state.isTerminal = false := by
  simp [activeJob?, Option.filter_eq_some_iff]

theorem rank_of_active {state : JobState} (active : state.isTerminal = false) : state.rank < 3 := by
  cases state <;> simp_all [JobState.isTerminal, JobState.rank]

/-! ## Looking at the job -/

/-- The ways a poll can go, with its result. -/
inductive Poll (c : Converter) (handle : JobHandle) :
    List ActEvent → Except ConversionError PollResult → Converter → Prop
  | unknown (absent : c.find? handle = none) :
    Poll c handle [] (.error (.usage (.unknownJob handle))) c
  | ended {job : Job} (known : c.find? handle = some job) (terminal : job.state.isTerminal = true) :
    Poll c handle [] (.ok (.ofState job.state)) c
  | turned {job job' : Job} {events : List ActEvent} (known : c.find? handle = some job)
      (active : job.state.isTerminal = false) (turn : Turn c.config job events job') :
    Poll c handle events (.ok (.ofState job'.state)) (c.withJob job')

theorem poll_course {handle : JobHandle} {result : Except ConversionError PollResult}
    (course : (c.poll handle).Course events (result, c')) : Poll c handle events result c' := by
  rw [poll] at course
  cases known : c.find? handle with
  | none =>
    simp only [known] at course
    obtain ⟨rfl, same⟩ := Dialogue.course_pure.mp course
    cases same
    exact .unknown known
  | some job =>
    simp only [known] at course
    split at course
    · rename_i terminal
      obtain ⟨rfl, same⟩ := Dialogue.course_pure.mp course
      cases same
      exact .ended known terminal
    · rename_i active
      have active : job.state.isTerminal = false := by simpa using active
      obtain ⟨stepping, ⟨moved, fault⟩, rest, rfl, stepped, after⟩ := Dialogue.course_bind.mp course
      have move := step_course active stepped
      cases fault with
      | none =>
        obtain ⟨rfl, same⟩ := Dialogue.course_pure.mp after
        cases same
        rw [List.append_nil]
        exact .turned known active (.moved move)
      | some fault =>
        obtain ⟨rest, rfl, noted⟩ := course_warn_bind.mp after
        obtain ⟨job', aborted, same⟩ := Dialogue.course_reshape noted fun _ => rfl
        cases same
        have forward : moved.state.rank < (JobState.failed fault.failure).rank := by
          rw [move.state_of_fault]
          exact rank_of_active active
        exact .turned known active (.failed fault move (abort_course forward aborted))

theorem Works.turned {job job' : Job} (current : c.job = some job)
    (active : job.state.isTerminal = false) (turn : Turn c.config job events job') :
    Works c events (c.withJob job') := by
  have chain : Chain c.config job (events ++ []) job' := .turn active turn (.stay job')
  rw [List.append_nil] at chain
  exact .busy current chain

theorem Poll.works {handle : JobHandle} {result : Except ConversionError PollResult}
    (poll : Poll c handle events result c') : Works c events c' := by
  cases poll with
  | unknown | ended => exact .nothing c
  | turned known active turn =>
    exact .turned (find?_eq_some.mp known).1 active turn

/-! ## Giving the job up -/

inductive Cancel (c : Converter) (handle : JobHandle) :
    List ActEvent → Except ConversionError Unit → Converter → Prop
  | unknown (absent : c.find? handle = none) :
    Cancel c handle [] (.error (.usage (.unknownJob handle))) c
  | ended {job : Job} (known : c.find? handle = some job) (terminal : job.state.isTerminal = true) :
    Cancel c handle [] (.ok ()) c
  | aborted {job job' : Job} {events : List ActEvent} (known : c.find? handle = some job)
      (active : job.state.isTerminal = false) (abort : Abort job .cancelled events job') :
    Cancel c handle events (.ok ()) (c.withJob job')

theorem cancel_course {handle : JobHandle} {result : Except ConversionError Unit}
    (course : (c.cancel handle).Course events (result, c')) : Cancel c handle events result c' := by
  rw [cancel] at course
  cases known : c.find? handle with
  | none =>
    simp only [known] at course
    obtain ⟨rfl, same⟩ := Dialogue.course_pure.mp course
    cases same
    exact .unknown known
  | some job =>
    simp only [known] at course
    split at course
    · rename_i terminal
      obtain ⟨rfl, same⟩ := Dialogue.course_pure.mp course
      cases same
      exact .ended known terminal
    · rename_i active
      have active : job.state.isTerminal = false := by simpa using active
      obtain ⟨job', aborted, same⟩ := Dialogue.course_reshape course fun _ => rfl
      cases same
      exact .aborted known active (abort_course (rank_of_active active) aborted)

theorem Works.cancelled {job job' : Job} (current : c.job = some job)
    (active : job.state.isTerminal = false) (abort : Abort job .cancelled events job') :
    Works c events (c.withJob job') := by
  have chain : Chain c.config job (events ++ []) job' := .cancel active abort (.stay job')
  rw [List.append_nil] at chain
  exact .busy current chain

theorem Cancel.works {handle : JobHandle} {result : Except ConversionError Unit}
    (cancel : Cancel c handle events result c') : Works c events c' := by
  cases cancel with
  | unknown | ended => exact .nothing c
  | aborted known active abort => exact .cancelled (find?_eq_some.mp known).1 active abort

inductive Close (c : Converter) : List ActEvent → Converter → Prop
  | quiet (idle : c.activeJob? = none) : Close c [] c
  | dropped {job job' : Job} {events : List ActEvent} (current : c.job = some job)
      (active : job.state.isTerminal = false) (abort : Abort job .cancelled events job') :
    Close c (.noted (.droppedWhile job.handle job.state) :: events) (c.withJob job')

theorem close_course (course : c.close.Course events c') : Close c events c' := by
  rw [close] at course
  cases current : c.activeJob? with
  | none =>
    simp only [current] at course
    obtain ⟨rfl, rfl⟩ := Dialogue.course_pure.mp course
    exact .quiet current
  | some job =>
    simp only [current] at course
    obtain ⟨current, active⟩ := activeJob?_eq_some.mp current
    obtain ⟨rest, rfl, noted⟩ := course_warn_bind.mp course
    obtain ⟨job', aborted, rfl⟩ := Dialogue.course_reshape noted fun _ => rfl
    exact .dropped current active (abort_course (rank_of_active active) aborted)

theorem Close.idle (close : Close c events c') : c'.activeJob? = none := by
  cases close with
  | quiet idle => exact idle
  | dropped _ _ abort =>
    cases abort
    rfl

theorem Close.works (close : Close c events c') : Works c events c' := by
  cases close with
  | quiet => exact .nothing c
  | dropped current active abort => exact .pause (.dropped _ _) (.cancelled current active abort)

/-! ## Running to the end -/

/-- The job that a poll has looked at stays the current one. -/
theorem Poll.known {handle : JobHandle} {result : PollResult}
    (poll : Poll c handle events (.ok result) c') : ∃ job, c'.find? handle = some job := by
  cases poll with
  | ended known _ => exact ⟨_, known⟩
  | turned known active turn =>
    obtain ⟨-, named⟩ := find?_eq_some.mp known
    exact ⟨_, find?_eq_some.mpr ⟨rfl, turn.identity.handle.trans named⟩⟩

/-- The ways in which a job can be run, tick by tick. -/
inductive Run (handle : JobHandle) (interval : Duration) (deadline : Option Duration)
    (started : Duration) : Nat → Converter → List ActEvent →
    Option (Except ConversionError PollResult) → Converter → Prop
  | exhausted (c : Converter) : Run handle interval deadline started 0 c [] none c
  | refused {ticks : Nat} {c c' : Converter} {events : List ActEvent} {error : ConversionError}
      (poll : Poll c handle events (.error error) c') :
    Run handle interval deadline started (ticks + 1) c events (some (.error error)) c'
  | ended {ticks : Nat} {c c' : Converter} {events : List ActEvent} {result : PollResult}
      (poll : Poll c handle events (.ok result) c') (terminal : result.isTerminal = true) :
    Run handle interval deadline started (ticks + 1) c events (some (.ok result)) c'
  | late {ticks : Nat} {c between c' : Converter} {polling cancelling : List ActEvent}
      {result : PollResult} (poll : Poll c handle polling (.ok result) between)
      (going : result.isTerminal = false) (now limit : Duration)
      (past : reached deadline (now.nanoseconds - started.nanoseconds) = some limit)
      (cancel : Cancel between handle cancelling (.ok ()) c') :
    Run handle interval deadline started (ticks + 1) c
      (polling ++ .asked .clock now :: .noted (.deadlineExceeded handle limit) :: cancelling)
      (some ((c'.state handle).map PollResult.ofState)) c'
  | again {ticks : Nat} {c between c' : Converter} {polling later : List ActEvent}
      {result : PollResult} {last : Option (Except ConversionError PollResult)}
      (poll : Poll c handle polling (.ok result) between) (going : result.isTerminal = false)
      (now : Duration) (early : reached deadline (now.nanoseconds - started.nanoseconds) = none)
      (slept : Unit) (rest : Run handle interval deadline started ticks between later last c') :
    Run handle interval deadline started (ticks + 1) c
      (polling ++ .asked .clock now :: .asked (.sleep interval) slept :: later) last c'

variable {handle : JobHandle} {interval started : Duration} {deadline : Option Duration}
  {ticks : Nat} {result : Option (Except ConversionError PollResult)}

theorem run_course
    (course : (runTicks handle interval deadline started ticks c).Course events (result, c')) :
    Run handle interval deadline started ticks c events result c' := by
  induction ticks generalizing c events with
  | zero =>
    obtain ⟨rfl, same⟩ := Dialogue.course_pure.mp course
    cases same
    exact .exhausted _
  | succ ticks ih =>
    obtain ⟨polling, ⟨polled, between⟩, rest, rfl, looked, after⟩ := Dialogue.course_bind.mp course
    have poll := poll_course looked
    cases polled with
    | error e =>
      obtain ⟨rfl, same⟩ := Dialogue.course_pure.mp after
      cases same
      rw [List.append_nil]
      exact .refused poll
    | ok result =>
      dsimp only at after
      split at after
      · rename_i terminal
        obtain ⟨rfl, same⟩ := Dialogue.course_pure.mp after
        cases same
        rw [List.append_nil]
        exact .ended poll terminal
      · rename_i going
        have going : result.isTerminal = false := by simpa using going
        obtain ⟨now, rest, rfl, timed⟩ := course_ask_bind.mp after
        split at timed
        · rename_i limit past
          obtain ⟨rest, rfl, noted⟩ := course_warn_bind.mp timed
          obtain ⟨cancelling, ⟨cancelled, last⟩, rest, rfl, cancelCourse, done⟩ :=
            Dialogue.course_bind.mp noted
          have cancel := cancel_course cancelCourse
          cases cancelled with
          | error e =>
            obtain ⟨job, known⟩ := poll.known
            cases cancel with
            | unknown absent => simp [known] at absent
          | ok done' =>
            obtain ⟨rfl, same⟩ := Dialogue.course_pure.mp done
            cases same
            rw [List.append_nil]
            exact .late poll going now limit past cancel
        · rename_i early
          obtain ⟨slept, rest, rfl, continued⟩ := course_ask_bind.mp timed
          exact .again poll going now early slept (ih continued)

theorem Run.works (run : Run handle interval deadline started ticks c events result c') :
    Works c events c' := by
  induction run with
  | exhausted c => exact .nothing c
  | refused poll => exact poll.works
  | ended poll _ => exact poll.works
  | late poll _ now limit _ cancel =>
    exact poll.works.append (.pause (.clock now) (.pause (.deadline handle limit) cancel.works))
  | again poll _ now _ slept _ ih =>
    exact poll.works.append (.pause (.clock now) (.pause (.sleep interval slept) ih))

/-! ## Collecting slides -/

inductive Collect (c : Converter) (handle : JobHandle) :
    List ActEvent → Except ConversionError SlideCollection → Prop
  | unknown (absent : c.find? handle = none) :
    Collect c handle [] (.error (.usage (.unknownJob handle)))
  | early {job : Job} (known : c.find? handle = some job) (other : job.state ≠ .finished) :
    Collect c handle [] (.error (.usage (.notFinished job.handle job.state)))
  | unmatched {job : Job} {cause : ErrorChain} (known : c.find? handle = some job)
      (finished : job.state = .finished) (refused : c.patternRefusal? = some cause) :
    Collect c handle [] (.error (.filesystem cause))
  | unlistable {job : Job} (known : c.find? handle = some job) (finished : job.state = .finished)
      (matched : c.patternRefusal? = none) (cause : ErrorChain) :
    Collect c handle [.asked (.listDir job.workDir) (.error cause)] (.error (.filesystem cause))
  | collected {job : Job} (known : c.find? handle = some job) (finished : job.state = .finished)
      (matched : c.patternRefusal? = none) (entries : List Path) :
    Collect c handle [.asked (.listDir job.workDir) (.ok entries)]
      (.ok (.ofEntries c.config.pipeline entries))

theorem collect_course {handle : JobHandle} {result : Except ConversionError SlideCollection}
    (course : (c.collectSlides handle).Course events result) : Collect c handle events result := by
  rw [collectSlides] at course
  cases known : c.find? handle with
  | none =>
    simp only [known] at course
    obtain ⟨rfl, rfl⟩ := Dialogue.course_pure.mp course
    exact .unknown known
  | some job =>
    simp only [known] at course
    split at course
    · rename_i finished
      cases matched : c.patternRefusal? with
      | some cause =>
        simp only [matched] at course
        obtain ⟨rfl, rfl⟩ := Dialogue.course_pure.mp course
        exact .unmatched known finished matched
      | none =>
        simp only [matched] at course
        obtain ⟨answer, rest, rfl, answered⟩ := course_ask_bind.mp course
        cases answer with
        | error cause =>
          obtain ⟨rfl, rfl⟩ := Dialogue.course_pure.mp answered
          exact .unlistable known finished matched cause
        | ok entries =>
          obtain ⟨rfl, rfl⟩ := Dialogue.course_pure.mp answered
          exact .collected known finished matched entries
    · rename_i other
      obtain ⟨rfl, rfl⟩ := Dialogue.course_pure.mp course
      exact .early known other

/-! ## All calls -/

/-- The ways a converter can respond to a call. -/
inductive Conduct (c : Converter) : Call → List ActEvent → Response → Converter → Prop
  | busy (source workDir : Path) {job : Job} (active : c.activeJob? = some job) :
    Conduct c (.start source workDir) []
      (.started (.error (.usage (.jobActive job.handle job.state)))) c
  | rejected (source workDir : Path) {events : List ActEvent} {error : ConversionError}
      (idle : c.activeJob? = none)
      (prepared : Preparation c.config source workDir events (.error error)) :
    Conduct c (.start source workDir) events (.started (.error error)) c
  | registered (source workDir : Path) {events : List ActEvent} {staged : Option Path}
      (idle : c.activeJob? = none)
      (prepared : Preparation c.config source workDir events (.ok staged)) :
    Conduct c (.start source workDir) events (.started (.ok ⟨c.nextId⟩))
      (c.register source workDir staged).2
  | listed (handle : JobHandle) {job : Job} (known : c.find? handle = some job)
      (finished : job.state = .finished) (answer : Reply (List Path))
      (result : Except ConversionError SlideCollection) :
    Conduct c (.collectSlides handle) [.asked (.listDir job.workDir) answer] (.slides result) c
  | worked {call : Call} {events : List ActEvent} {response : Response} {c' : Converter}
      (other : call.isStart = false) (silent : response.registers = false)
      (works : Works c events c') :
    Conduct c call events response c'

theorem start_conduct {source workDir : Path} {result : Except ConversionError JobHandle}
    (course : (c.start source workDir).Course events (result, c')) :
    Conduct c (.start source workDir) events (.started result) c' := by
  rw [start] at course
  cases active : c.activeJob? with
  | some job =>
    simp only [active] at course
    obtain ⟨rfl, same⟩ := Dialogue.course_pure.mp course
    cases same
    exact .busy source workDir active
  | none =>
    simp only [active] at course
    obtain ⟨preparing, prepared, rest, rfl, prepareCourse, after⟩ := Dialogue.course_bind.mp course
    cases prepared with
    | error e =>
      obtain ⟨rfl, same⟩ := Dialogue.course_pure.mp after
      cases same
      rw [List.append_nil]
      exact .rejected source workDir active (preparation_course prepareCourse)
    | ok staged =>
      obtain ⟨rfl, same⟩ := Dialogue.course_pure.mp after
      cases same
      rw [List.append_nil]
      exact .registered source workDir active (preparation_course prepareCourse)

theorem respond_conduct {call : Call} {response : Response}
    (course : (c.respond call).Course events (response, c')) :
    Conduct c call events response c' := by
  cases call with
  | start source workDir =>
    obtain ⟨_, started, same⟩ := Dialogue.course_reshape course fun _ => rfl
    cases same
    exact start_conduct started
  | poll handle =>
    obtain ⟨_, polled, same⟩ := Dialogue.course_reshape course fun _ => rfl
    cases same
    exact .worked rfl rfl (poll_course polled).works
  | cancel handle =>
    obtain ⟨_, cancelled, same⟩ := Dialogue.course_reshape course fun _ => rfl
    cases same
    exact .worked rfl rfl (cancel_course cancelled).works
  | collectSlides handle =>
    obtain ⟨_, collected, same⟩ := Dialogue.course_reshape course fun _ => rfl
    cases same
    cases collect_course collected with
    | unknown | early | unmatched => exact .worked rfl rfl (.nothing c)
    | unlistable known finished => exact .listed handle known finished _ _
    | collected known finished => exact .listed handle known finished _ _
  | state | workDir | report =>
    obtain ⟨rfl, same⟩ := Dialogue.course_pure.mp course
    cases same
    exact .worked rfl rfl (.nothing _)
  | run handle interval deadline maxTicks =>
    obtain ⟨_, ran, same⟩ := Dialogue.course_reshape course fun _ => rfl
    cases same
    obtain ⟨started, rest, rfl, ticked⟩ := course_ask_bind.mp ran
    exact .worked rfl rfl (.pause (.clock started) (run_course ticked).works)
  | close =>
    obtain ⟨_, closed, same⟩ := Dialogue.course_reshape course fun _ => rfl
    cases same
    exact .worked rfl rfl (close_course closed).works

/-- A response that registers a job is the one to a start. -/
theorem Conduct.of_registers {call : Call} {response : Response}
    (registers : response.registers = true)
    (conduct : Conduct c call events response c') : ∃ source workDir staged,
      call = .start source workDir ∧ response = .started (.ok ⟨c.nextId⟩) ∧
      Preparation c.config source workDir events (.ok staged) ∧
      c' = (c.register source workDir staged).2 := by
  cases conduct with
  | busy | rejected | listed => cases registers
  | registered source workDir _ prepared => exact ⟨source, workDir, _, rfl, rfl, prepared, rfl⟩
  | worked _ silent => simp [silent] at registers

/-- The first of linked exchanges is a conduct, and the others go on from there. -/
theorem Linked.conduct {σ : Type} {r : Surroundings σ} {s s' : σ} {e : Exchange σ}
    {rest : List (Exchange σ)} (linked : History.Linked r c s (e :: rest) c' s') :
    Conduct c e.call e.events e.response e.after ∧ History.Linked r e.after e.world rest c' s' := by
  obtain ⟨same, performed, onward⟩ := linked
  have conduct := respond_conduct (History.genuine_of_perform same performed)
  rw [same] at conduct
  exact ⟨conduct, onward⟩

/-- What each exchange carries on, from the events so far to those with its own, linked exchanges
carry on with all of theirs. -/
theorem Linked.carry {σ : Type} {r : Surroundings σ} {s s' : σ} {exchanges : List (Exchange σ)}
    (P : Converter → List ActEvent → Prop) (past : List ActEvent)
    (carried : ∀ e ∈ exchanges, ∀ c past, Conduct c e.call e.events e.response e.after →
      P c past → P e.after (past ++ e.events))
    (linked : History.Linked r c s exchanges c' s') (start : P c past) :
    P c' (past ++ exchanges.flatMap (·.events)) := by
  induction exchanges generalizing c s past with
  | nil =>
    obtain ⟨rfl, -⟩ := linked
    simpa using start
  | cons e rest ih =>
    obtain ⟨conduct, later⟩ := Linked.conduct linked
    obtain ⟨here, onward⟩ := List.forall_mem_cons.mp carried
    rw [List.flatMap_cons, ← List.append_assoc]
    exact ih _ onward later (here c past conduct start)

end Converter

end SlideConverter

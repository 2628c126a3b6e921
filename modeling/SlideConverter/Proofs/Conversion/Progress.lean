import SlideConverter.Proofs.Conversion.Deadline

/-!
# How many polls a job takes

A tool that is at work in so many waits and has ended in the next keeps a job waiting for just so
many polls. If every tool of a job does so, the poll that ends the job can be told: it is the first
one if no tool can be started, one more than the waits for the only tool if there is only one, and
one more than the waits for both tools otherwise. Running the job without a deadline comes to the
same.
-/

namespace SlideConverter

/-! ## Counting waits -/

/-- How many tools have been started, and how often the last one has been waited for. -/
structure Tally where
  tools : Nat := 0
  waits : Nat := 0

def ToolCall.count (t : Tally) : ToolCall → Tally
  | .launched _ (.ok _) => ⟨t.tools + 1, 0⟩
  | .waited _ _ => ⟨t.tools, t.waits + 1⟩
  | _ => t

def tally (events : List ActEvent) : Tally := (toolCalls events).foldl ToolCall.count {}

/-- The `i`-th tool is at work in `k i` waits, and not in the next one. -/
def ToolCall.OnTime (k : Nat → Nat) (t : Tally) : ToolCall → Prop
  | .waited _ answer => answer = .ok none ↔ t.waits < k t.tools
  | _ => True

instance (k : Nat → Nat) (t : Tally) (call : ToolCall) : Decidable (call.OnTime k t) := by
  cases call <;> unfold ToolCall.OnTime <;> infer_instance

/-- Every tool is on time, counting on from a tally. -/
def Punctual (k : Nat → Nat) : Tally → List ToolCall → Prop
  | _, [] => True
  | t, call :: rest => call.OnTime k t ∧ Punctual k (call.count t) rest

instance Punctual.decidable (k : Nat → Nat) : (t : Tally) → (calls : List ToolCall) →
    Decidable (Punctual k t calls)
  | _, [] => isTrue trivial
  | t, call :: rest =>
    have := Punctual.decidable k (call.count t) rest
    inferInstanceAs (Decidable (_ ∧ _))

/-- Something goes wrong with the first tool, or with what it leaves, or with starting another. -/
inductive Falter (options : PipelineOptions) : ActEvent → Prop
  | waitRefused (process : ToolProcess) (cause : ErrorChain) :
    Falter options (.asked (.tryWait process) (.error cause))
  | badExit (process : ToolProcess) (exit : ToolExit) (bad : exit.success = false) :
    Falter options (.asked (.tryWait process) (.ok (some exit)))
  | unlistable (path : Path) (cause : ErrorChain) :
    Falter options (.asked (.listDir path) (.error cause))
  | missing (path : Path) (entries : List Path)
      (absent : ∀ entry ∈ entries, options.isIntermediate entry = false) :
    Falter options (.asked (.listDir path) (.ok entries))
  | launchRefused (invocation : Invocation) (cause : ErrorChain) :
    Falter options (.asked (.launch invocation) (.error cause))

/-- Something goes wrong after one tool has been started, and before a second one has. -/
def FirstFalters (options : PipelineOptions) (events : List ActEvent) : Prop :=
  ∃ before event after invocation process, events = before ++ event :: after ∧
    launches before = [(invocation, .ok process)] ∧ Falter options event

/-- The number of polls that a job takes to its end, where `events` is all that is asked. -/
inductive Due (options : PipelineOptions) (copied : Bool) (k : Nat → Nat)
    (events : List ActEvent) : Nat → Prop
  | refused (invocation : Invocation) (cause : ErrorChain)
      (rest : List (Invocation × Reply ToolProcess))
      (first : launches events = (invocation, .error cause) :: rest) :
    Due options copied k events 1
  | alone (invocation : Invocation) (process : ToolProcess)
      (rest : List (Invocation × Reply ToolProcess)) (staged : copied = true)
      (first : launches events = (invocation, .ok process) :: rest) :
    Due options copied k events (k 1 + 2)
  | faltered (plain : copied = false) (falters : FirstFalters options events) :
    Due options copied k events (k 1 + 2)
  | through (invocation : Invocation) (process : ToolProcess)
      (rest : List (Invocation × Reply ToolProcess)) (plain : copied = false)
      (first : launches events = (invocation, .ok process) :: rest)
      (sound : ¬ FirstFalters options events) :
    Due options copied k events (k 1 + k 2 + 3)

variable {options : PipelineOptions} {copied : Bool} {k : Nat → Nat} {t : Tally}
  {past events first second : List ActEvent} {calls more : List ToolCall} {event : ActEvent}

theorem punctual_append : Punctual k t (calls ++ more) ↔
    Punctual k t calls ∧ Punctual k (calls.foldl ToolCall.count t) more := by
  induction calls generalizing t with
  | nil => simp [Punctual]
  | cons call rest ih => simp [Punctual, ih, and_assoc]

theorem tally_append (first second : List ActEvent) :
    tally (first ++ second) = (toolCalls second).foldl ToolCall.count (tally first) := by
  rw [tally, toolCalls_append, List.foldl_append, ← tally]

theorem punctual_append_events : Punctual k (tally past) (toolCalls (first ++ second)) ↔
    Punctual k (tally past) (toolCalls first) ∧
      Punctual k (tally (past ++ first)) (toolCalls second) := by
  rw [toolCalls_append, punctual_append, tally_append]

theorem Falter.setback (falter : Falter options event) : Setback options event := by
  cases falter with
  | waitRefused process cause => exact .waitRefused process cause
  | badExit process exit bad => exact .badExit process exit bad
  | unlistable path cause => exact .unlistable path cause
  | missing path entries absent => exact .missing path entries absent
  | launchRefused invocation cause => exact .launchRefused invocation cause

theorem FirstFalters.started (falters : FirstFalters options events) :
    ∃ invocation process rest, launches events = (invocation, .ok process) :: rest := by
  obtain ⟨before, event, after, invocation, process, rfl, one, -⟩ := falters
  refine ⟨invocation, process, launches (event :: after), ?_⟩
  rw [launches_append, one]
  rfl

/-- Where nothing has gone wrong yet, it does not if nothing does now or if both tools have been
started. -/
theorem not_firstFalters_append (sound : ¬ FirstFalters options past)
    (steady : (∀ e ∈ events, ¬ Falter options e) ∨ 2 ≤ (launches past).length) :
    ¬ FirstFalters options (past ++ events) := by
  rintro ⟨before, event, after, invocation, process, split, one, falter⟩
  rcases List.append_eq_append_iff.mp split with ⟨between, rfl, rest⟩ | ⟨between, rfl, rest⟩
  · have there : event ∈ events := by simp [rest]
    rcases steady with steady | both
    · exact steady event there falter
    · have bound := congrArg List.length one
      rw [launches_append, List.length_append, List.length_singleton] at bound
      omega
  · cases between with
    | nil =>
      have there : event ∈ events := by
        rw [List.nil_append] at rest
        simp [← rest]
      rcases steady with steady | both
      · exact steady event there falter
      · rw [List.append_nil, one] at both
        simp at both
    | cons here between =>
      cases rest
      exact sound ⟨before, event, between, invocation, process, rfl, one, falter⟩

/-- There is one such number at most. -/
theorem Due.unique {m n : Nat} (due : Due options copied k events m)
    (due' : Due options copied k events n) : m = n := by
  cases due with
  | refused invocation cause rest first =>
    cases due' with
    | refused => rfl
    | alone _ _ _ _ first' => simp [first] at first'
    | faltered _ falters =>
      obtain ⟨_, _, _, first'⟩ := falters.started
      simp [first] at first'
    | through _ _ _ _ first' => simp [first] at first'
  | alone _ _ _ staged first =>
    cases due' with
    | refused _ _ _ first' => simp [first] at first'
    | alone => rfl
    | faltered plain => simp [staged] at plain
    | through _ _ _ plain => simp [staged] at plain
  | faltered plain falters =>
    cases due' with
    | refused _ _ _ first' =>
      obtain ⟨_, _, _, first⟩ := falters.started
      simp [first] at first'
    | alone _ _ _ staged => simp [staged] at plain
    | faltered => rfl
    | through _ _ _ _ _ sound => exact absurd falters sound
  | through _ _ _ plain first sound =>
    cases due' with
    | refused _ _ _ first' => simp [first] at first'
    | alone _ _ _ staged => simp [staged] at plain
    | faltered _ falters => exact absurd falters sound
    | through => rfl

/-! ## Where a job is after some polls -/

namespace Job

/-- The tool is at work, `polls` is one poll more than the waits for it and the `base` polls that
were made before it was started. -/
def Awaited (k : Nat → Nat) (past : List ActEvent) (tool base polls : Nat) : Prop :=
  ∃ waits, tally past = ⟨tool, waits⟩ ∧ waits ≤ k tool ∧ polls = base + waits + 1

/-- The raster tool is at work, be it the first tool or the second one. -/
inductive Rastering (options : PipelineOptions) (copied : Bool) (k : Nat → Nat)
    (past : List ActEvent) (polls : Nat) : Prop
  | alone (invocation : Invocation) (process : ToolProcess) (staged : copied = true)
      (first : launches past = [(invocation, .ok process)]) (awaited : Awaited k past 1 0 polls)
  | second (invocation : Invocation) (process : ToolProcess)
      (launched : Invocation × Reply ToolProcess) (plain : copied = false)
      (both : launches past = [(invocation, .ok process), launched])
      (sound : ¬ FirstFalters options past) (awaited : Awaited k past 2 (k 1 + 1) polls)

/-- What has been asked for a job at work, and in how many polls. -/
def Underway (options : PipelineOptions) (copied : Bool) (k : Nat → Nat) (past : List ActEvent)
    (polls : Nat) (job : Job) : Prop :=
  match job.state with
  | .init => toolCalls past = [] ∧ polls = 0 ∧ job.intermediate.isSome = copied
  | .convertingToIntermediate => copied = false ∧
    (∃ invocation process, launches past = [(invocation, .ok process)]) ∧
    ¬ FirstFalters options past ∧ Awaited k past 1 0 polls
  | .convertingToImages => Rastering options copied k past polls
  | _ => False

/-- After some polls the job is at work, or it has ended in the last of them, when it was due. -/
def OnSchedule (options : PipelineOptions) (copied : Bool) (k : Nat → Nat) (past : List ActEvent)
    (polls : Nat) (job : Job) : Prop :=
  if job.state.isTerminal then Due options copied k past polls
  else job.Underway options copied k past polls

variable {config : Config} {job job' : Job} {polls tool base : Nat} {fault : Option Fault}

theorem OnSchedule.of_active (active : job.state.isTerminal = false) :
    job.OnSchedule options copied k past polls ↔ job.Underway options copied k past polls := by
  simp [OnSchedule, active]

theorem OnSchedule.of_terminal (ended : job.state.isTerminal = true) :
    job.OnSchedule options copied k past polls ↔ Due options copied k past polls := by
  simp [OnSchedule, ended]

theorem Underway.active (underway : job.Underway options copied k past polls) :
    job.state.isTerminal = false := by
  cases now : job.state <;> simp_all [Underway, JobState.isTerminal]

theorem Awaited.polls_lt (awaited : Awaited k past tool base polls) :
    polls < base + k tool + 2 := by
  obtain ⟨waits, -, patient, rfl⟩ := awaited
  omega

/-- No job is at work for longer than both tools together. -/
theorem Underway.polls_lt (underway : job.Underway options copied k past polls) :
    polls < k 1 + k 2 + 3 := by
  cases now : job.state with
  | init =>
    simp only [Underway, now] at underway
    omega
  | convertingToIntermediate =>
    simp only [Underway, now] at underway
    have bound := underway.2.2.2.polls_lt
    omega
  | convertingToImages =>
    simp only [Underway, now] at underway
    cases underway with
    | alone _ _ _ _ awaited =>
      have bound := awaited.polls_lt
      omega
    | second _ _ _ _ _ _ awaited =>
      have bound := awaited.polls_lt
      omega
  | finished | cancelled | failed => simp [Underway, now] at underway

/-! ## One look -/

/-- The tool is still at work, and on time with that. -/
theorem Awaited.again {process : ToolProcess} (awaited : Awaited k past tool base polls)
    (punctual : Punctual k (tally past)
      (toolCalls [.asked (.tryWait process) (.ok none)])) :
    Awaited k (past ++ [.asked (.tryWait process) (.ok none)]) tool base (polls + 1) := by
  obtain ⟨waits, tallied, patient, rfl⟩ := awaited
  rw [tallied] at punctual
  have more : waits < k tool := punctual.1.mp rfl
  refine ⟨waits + 1, ?_, more, by omega⟩
  rw [tally_append, tallied]
  rfl

/-- The tool is at work no longer, and on time with that. -/
theorem Awaited.ended {process : ToolProcess} {answer : Reply (Option ToolExit)}
    (awaited : Awaited k past tool base polls)
    (punctual : Punctual k (tally past)
      (toolCalls (.asked (.tryWait process) answer :: events)))
    (ended : answer ≠ .ok none) : polls + 1 = base + k tool + 2 := by
  obtain ⟨waits, tallied, patient, rfl⟩ := awaited
  rw [tallied] at punctual
  have enough : ¬ waits < k tool := fun more => ended (punctual.1.mpr more)
  omega

theorem Rastering.again {process : ToolProcess} (rastering : Rastering options copied k past polls)
    (punctual : Punctual k (tally past)
      (toolCalls [.asked (.tryWait process) (.ok none)])) :
    Rastering options copied k (past ++ [.asked (.tryWait process) (.ok none)]) (polls + 1) := by
  cases rastering with
  | alone invocation process staged first awaited =>
    exact .alone invocation process staged (by simpa using first) (awaited.again punctual)
  | second invocation process launched plain both sound awaited =>
    refine .second invocation process launched plain (by simpa using both) ?_
      (awaited.again punctual)
    exact not_firstFalters_append sound (.inr (by simp [both]))

/-- However the raster tool has ended, the job is due. -/
theorem Rastering.due {process : ToolProcess} {answer : Reply (Option ToolExit)}
    (rastering : Rastering options copied k past polls)
    (punctual : Punctual k (tally past)
      (toolCalls (.asked (.tryWait process) answer :: events)))
    (ended : answer ≠ .ok none) (silent : launches second = []) :
    Due options copied k (past ++ second) (polls + 1) := by
  cases rastering with
  | alone invocation process staged first awaited =>
    have count := awaited.ended punctual ended
    rw [show polls + 1 = k 1 + 2 by omega]
    exact .alone invocation process [] staged (by simp [first, silent])
  | second invocation process launched plain both sound awaited =>
    have count := awaited.ended punctual ended
    rw [show polls + 1 = k 1 + k 2 + 3 by omega]
    refine .through invocation process [launched] plain (by simp [both, silent]) ?_
    exact not_firstFalters_append sound (.inr (by simp [both]))

theorem absent_of_leastIntermediate {entries : List Path}
    (absent : leastIntermediate options entries = none) :
    ∀ entry ∈ entries, options.isIntermediate entry = false := by
  rw [leastIntermediate, List.head?_eq_none_iff] at absent
  have none := congrArg List.length absent
  rw [List.length_mergeSort, List.length_nil, List.length_eq_zero_iff] at none
  simpa [List.filter_eq_nil_iff] using none

/-- A first tool that cannot be started makes the job due. -/
theorem due_of_refused {invocation : Invocation} {cause : ErrorChain}
    (unlaunched : launches past = []) (silent : launches second = []) :
    Due options copied k (past ++ ([.asked (.launch invocation) (.error cause)] ++ second)) 1 :=
  .refused invocation cause [] (by simp [unlaunched, silent])

/-- What goes wrong after the first of two tools makes the job due. -/
theorem due_of_falter (before after : List ActEvent) (plain : copied = false)
    (first : ∃ invocation process, launches past = [(invocation, .ok process)])
    (awaited : polls + 1 = k 1 + 2) (silent : launches before = [])
    (falter : Falter options event) :
    Due options copied k (past ++ (before ++ event :: after)) (polls + 1) := by
  obtain ⟨invocation, process, first⟩ := first
  rw [awaited, ← List.append_assoc]
  exact .faltered plain ⟨_, event, after, invocation, process, rfl, by simp [first, silent], falter⟩

theorem Move.onSchedule (underway : job.Underway config.pipeline copied k past polls)
    (move : Move config job events job' none)
    (punctual : Punctual k (tally past) (toolCalls events)) :
    job'.OnSchedule config.pipeline copied k (past ++ events) (polls + 1) := by
  have steady : ∀ e ∈ events, ¬ Falter config.pipeline e :=
    fun e there falter => move.steady e there falter.setback
  cases move with
  | office state plain launch =>
    simp only [Underway, state, plain] at underway
    obtain ⟨untouched, rfl, source⟩ := underway
    have unlaunched := launches_of_toolCalls untouched
    cases launch with
    | started process time =>
      refine (OnSchedule.of_active rfl).mpr ⟨source.symm, ?_, ?_, ?_⟩
      · exact ⟨.office config job.source job.workDir, process, by simp [unlaunched]⟩
      · refine not_firstFalters_append (fun falters => ?_) (.inl steady)
        obtain ⟨_, _, _, first⟩ := falters.started
        simp [unlaunched] at first
      · exact ⟨0, by simp [tally, untouched, ToolCall.count], by omega, rfl⟩
  | raster path state staged launch =>
    simp only [Underway, state, staged] at underway
    obtain ⟨untouched, rfl, source⟩ := underway
    have unlaunched := launches_of_toolCalls untouched
    cases launch with
    | started process time =>
      refine (OnSchedule.of_active rfl).mpr (Rastering.alone
        (.raster config path job.workDir) process source.symm ?_ ?_)
      · simp [unlaunched]
      · exact ⟨0, by simp [tally, untouched, ToolCall.count], by omega, rfl⟩
  | atWork tool state held =>
    refine (OnSchedule.of_active underway.active).mpr ?_
    cases now : job.state with
    | init => exact absurd now state
    | convertingToIntermediate =>
      simp only [Underway, now] at underway ⊢
      obtain ⟨plain, ⟨invocation, process, first⟩, sound, awaited⟩ := underway
      exact ⟨plain, ⟨invocation, process, by simp [first]⟩,
        not_firstFalters_append sound (.inl steady), awaited.again punctual⟩
    | convertingToImages =>
      simp only [Underway, now] at underway ⊢
      exact underway.again punctual
    | finished | cancelled | failed => simp [Underway, now] at underway
  | converted tool exit time state held good rest =>
    simp only [Underway, state] at underway
    obtain ⟨plain, ⟨invocation, process, first⟩, sound, awaited⟩ := underway
    have count := awaited.ended punctual (by simp)
    obtain ⟨waits, tallied, -, -⟩ := awaited
    cases rest with
    | found entries path least launch =>
      cases launch with
      | started process' time' =>
        refine (OnSchedule.of_active rfl).mpr (Rastering.second invocation process
          (.raster config path job.workDir, .ok process') plain ?_ ?_ ?_)
        · simp [first, exitEvents, release]
        · exact not_firstFalters_append sound (.inl steady)
        · refine ⟨0, ?_, by omega, by omega⟩
          simp [tally_append, tallied, exitEvents, ToolCall.count]
  | rasterized tool exit time state held good rest =>
    simp only [Underway, state] at underway
    have silent : ∀ {rest}, launches rest = [] →
        launches (exitEvents tool exit time ++ rest) = [] := by
      intro rest none
      simp [exitEvents, none]
    cases rest with
    | kept => exact (OnSchedule.of_terminal rfl).mpr (underway.due punctual (by simp) (silent rfl))
    | removed =>
      exact (OnSchedule.of_terminal rfl).mpr (underway.due punctual (by simp) (silent rfl))

/-- A move with a fault is the last one, and nothing is started after it. -/
theorem Move.due {fault : Fault} (coherent : job.Coherent)
    (underway : job.Underway config.pipeline copied k past polls)
    (move : Move config job events job' (some fault))
    (punctual : Punctual k (tally past) (toolCalls events)) (silent : launches second = []) :
    Due config.pipeline copied k (past ++ (events ++ second)) (polls + 1) := by
  have noTool := coherent.fault_ne_noTool underway.active move
  cases move with
  | office state plain launch | raster path state staged launch =>
    simp only [Underway, state] at underway
    obtain ⟨untouched, rfl, -⟩ := underway
    have unlaunched := launches_of_toolCalls untouched
    cases launch with
    | refused cause => exact due_of_refused unlaunched silent
  | noTool => exact absurd rfl (noTool _)
  | waitRefused tool cause state held =>
    cases now : job.state with
    | init => exact absurd now state
    | convertingToIntermediate =>
      simp only [Underway, now] at underway
      obtain ⟨plain, first, -, awaited⟩ := underway
      have count : polls + 1 = k 1 + 2 := by simpa using awaited.ended punctual (by simp)
      exact due_of_falter [] second plain first count rfl (.waitRefused tool.process cause)
    | convertingToImages =>
      simp only [Underway, now] at underway
      exact underway.due punctual (by simp) (by simp [silent])
    | finished | cancelled | failed => simp [Underway, now] at underway
  | badExit tool exit time state held bad =>
    cases now : job.state with
    | init => exact absurd now state
    | convertingToIntermediate =>
      simp only [Underway, now] at underway
      obtain ⟨plain, first, -, awaited⟩ := underway
      have count : polls + 1 = k 1 + 2 := by simpa using awaited.ended punctual (by simp)
      exact due_of_falter [] _ plain first count rfl (.badExit tool.process exit bad)
    | convertingToImages =>
      simp only [Underway, now] at underway
      exact underway.due punctual (by simp) (by simp [exitEvents, silent])
    | finished | cancelled | failed => simp [Underway, now] at underway
  | converted tool exit time state held good rest =>
    simp only [Underway, state] at underway
    obtain ⟨plain, first, -, awaited⟩ := underway
    have count : polls + 1 = k 1 + 2 := by simpa using awaited.ended punctual (by simp)
    have exited : launches (exitEvents tool exit time) = [] := rfl
    rw [List.append_assoc]
    cases rest with
    | listingFailed cause => exact due_of_falter _ _ plain first count exited (.unlistable _ cause)
    | missing entries absent =>
      have none := absent_of_leastIntermediate absent
      exact due_of_falter _ _ plain first count exited (.missing _ entries none)
    | found entries path least launch =>
      cases launch with
      | refused cause =>
        rw [List.cons_append, List.append_cons]
        exact due_of_falter _ _ plain first count (by simp [exited]) (.launchRefused _ cause)
  | rasterized tool exit time state held good rest =>
    simp only [Underway, state] at underway
    cases rest with
    | removalFailed path cause =>
      exact underway.due punctual (by simp) (by simp [exitEvents, silent])

theorem Turn.onSchedule (coherent : job.Coherent)
    (underway : job.Underway config.pipeline copied k past polls)
    (turn : Turn config job events job')
    (punctual : Punctual k (tally past) (toolCalls events)) :
    job'.OnSchedule config.pipeline copied k (past ++ events) (polls + 1) := by
  cases turn with
  | moved move => exact move.onSchedule underway punctual
  | failed fault move abort =>
    have ended : job'.state.isTerminal = true := by
      cases abort
      rfl
    refine (OnSchedule.of_terminal ended).mpr ?_
    refine move.due coherent underway (punctual_append_events.mp punctual).1 ?_
    simpa using abort.launches_eq_nil

/-- Pauses do not count. -/
theorem Underway.pauses (underway : job.Underway options copied k past polls)
    (pauses : ∀ e ∈ events, Pause e) : job.Underway options copied k (past ++ events) polls := by
  have uncalled : toolCalls events = [] :=
    List.filterMap_eq_nil_iff.mpr fun e there => (pauses e there).toolCall?_eq_none
  have unlaunched := launches_of_toolCalls uncalled
  have same : tally (past ++ events) = tally past := by
    rw [tally_append, uncalled]
    rfl
  have steady : ∀ e ∈ events, ¬ Falter options e :=
    fun e there falter => (pauses e there).steady falter.setback
  have awaits : ∀ {tool base}, Awaited k past tool base polls →
      Awaited k (past ++ events) tool base polls := by
    rintro tool base ⟨waits, tallied, count⟩
    exact ⟨waits, same.trans tallied, count⟩
  cases now : job.state with
  | init => simpa [Underway, now, uncalled] using underway
  | convertingToIntermediate =>
    simp only [Underway, now] at underway ⊢
    obtain ⟨plain, first, sound, awaited⟩ := underway
    rw [launches_append, unlaunched, List.append_nil]
    exact ⟨plain, first, not_firstFalters_append sound (.inl steady), awaits awaited⟩
  | convertingToImages =>
    simp only [Underway, now] at underway ⊢
    cases underway with
    | alone invocation process staged first awaited =>
      exact .alone invocation process staged (by simp [first, unlaunched]) (awaits awaited)
    | second invocation process launched plain both sound awaited =>
      exact .second invocation process launched plain (by simp [both, unlaunched])
        (not_firstFalters_append sound (.inl steady)) (awaits awaited)
  | finished | cancelled | failed => simp [Underway, now] at underway

end Job

namespace Converter

open Job

variable {c c' : Converter} {handle : JobHandle} {job : Job} {polls : Nat}
  {interval started : Duration} {deadline : Option Duration} {σ : Type} {r : Surroundings σ}
  {s s' : σ}

theorem Poll.onSchedule {result : Except ConversionError PollResult}
    (known : c.find? handle = some job) (coherent : job.Coherent)
    (underway : job.Underway c.config.pipeline copied k past polls)
    (poll : Poll c handle events result c')
    (punctual : Punctual k (tally past) (toolCalls events)) :
    ∃ job', result = .ok (.ofState job'.state) ∧ PollResult.ofState job'.state ≠ .cancelled ∧
      c'.find? handle = some job' ∧ job'.Coherent ∧ c'.config = c.config ∧
      job'.OnSchedule c.config.pipeline copied k (past ++ events) (polls + 1) := by
  have active := underway.active
  obtain ⟨job', rfl, rfl, found, turn⟩ := poll.of_active known active
  have schedule := turn.onSchedule coherent underway punctual
  refine ⟨job', rfl, ?_, found, coherent.turn turn, rfl, schedule⟩
  intro cancelled
  have terminal := PollResult.isTerminal_ofState job'.state
  rw [cancelled] at terminal
  rcases turn.finished_or_failed active terminal.symm with state | ⟨failure, state⟩
  · simp [state, PollResult.ofState] at cancelled
  · simp [state, PollResult.ofState] at cancelled

/-! ## Row by row -/

/-- What one of linked polls looks like. -/
theorem Linked.poll {e : Exchange σ} {rest : List (Exchange σ)}
    (linked : History.Linked r c s (e :: rest) c' s')
    (polled : ∀ x ∈ e :: rest, x.call = .poll handle) :
    (∃ result, e.response = .polled result ∧ Poll c handle e.events result e.after) ∧
      History.Linked r e.after e.world rest c' s' ∧ ∀ x ∈ rest, x.call = .poll handle := by
  obtain ⟨same, performed, later⟩ := linked
  obtain ⟨here, others⟩ := List.forall_mem_cons.mp polled
  have course := History.genuine_of_perform same performed
  rw [History.Genuine, here, same] at course
  obtain ⟨⟨result, after⟩, looked, outcome⟩ := Dialogue.course_reshape course fun _ => rfl
  obtain ⟨response, rfl⟩ := Prod.mk.inj outcome
  exact ⟨⟨result, response, poll_course looked⟩, later, others⟩

/-- Polls of a job that has ended tell how, and ask nothing. -/
theorem Linked.polls_of_terminal {exchanges : List (Exchange σ)}
    (linked : History.Linked r c s exchanges c' s')
    (polled : ∀ e ∈ exchanges, e.call = .poll handle) (known : c.find? handle = some job)
    (ended : job.state.isTerminal = true) :
    c'.find? handle = some job ∧ exchanges.flatMap (·.events) = [] ∧
      ∀ e ∈ exchanges, e.response = .polled (.ok (.ofState job.state)) := by
  induction exchanges generalizing c s with
  | nil =>
    obtain ⟨rfl, -⟩ := linked
    exact ⟨known, rfl, by simp⟩
  | cons e rest ih =>
    obtain ⟨⟨result, response, poll⟩, later, others⟩ := Linked.poll linked polled
    obtain ⟨current, named⟩ := find?_eq_some.mp known
    obtain ⟨same, silent, tells⟩ := poll.of_terminal current ended
    rw [if_pos named.symm] at tells
    rw [tells] at response
    rw [same] at later
    obtain ⟨known', silentLater, each⟩ := ih later others known
    refine ⟨known', ?_, List.forall_mem_cons.mpr ⟨response, each⟩⟩
    rw [List.flatMap_cons, silent, silentLater]
    rfl

/-- Polls of a job at work: after all of them it is still at work, or it has ended when it was
due. -/
theorem Linked.onSchedule {exchanges : List (Exchange σ)}
    (linked : History.Linked r c s exchanges c' s')
    (polled : ∀ e ∈ exchanges, e.call = .poll handle)
    (known : c.find? handle = some job) (coherent : job.Coherent)
    (underway : job.Underway c.config.pipeline copied k past polls)
    (punctual : Punctual k (tally past) (toolCalls (exchanges.flatMap (·.events)))) :
    (∃ job' : Job, job'.Underway c.config.pipeline copied k (past ++ exchanges.flatMap (·.events))
      (polls + exchanges.length)) ∨
    ∃ (early late : List (Exchange σ)) (job' : Job), exchanges = early ++ late ∧
      (∀ e ∈ early, ∃ stage, e.response = .polled (.ok (.inProgress stage))) ∧
      (∀ e ∈ late, e.response = .polled (.ok (.ofState job'.state))) ∧
      c'.find? handle = some job' ∧ job'.state.isTerminal = true ∧
      PollResult.ofState job'.state ≠ .cancelled ∧
      Due c.config.pipeline copied k (past ++ exchanges.flatMap (·.events))
        (polls + early.length + 1) := by
  induction exchanges generalizing c s job past polls with
  | nil => exact .inl ⟨job, by simpa using underway⟩
  | cons e rest ih =>
    obtain ⟨⟨result, response, poll⟩, later, others⟩ := Linked.poll linked polled
    rw [List.flatMap_cons, punctual_append_events] at punctual
    obtain ⟨punctualHere, punctualLater⟩ := punctual
    obtain ⟨job', rfl, other, known', coherent', config, schedule⟩ :=
      poll.onSchedule known coherent underway punctualHere
    by_cases ended : job'.state.isTerminal = true
    · have due := (OnSchedule.of_terminal ended).mp schedule
      obtain ⟨last, silent, each⟩ := Linked.polls_of_terminal later others known' ended
      refine .inr ⟨[], e :: rest, job', rfl, by simp, ?_, last, ended, other, ?_⟩
      · exact List.forall_mem_cons.mpr ⟨response, each⟩
      · simpa [silent] using due
    · have active : job'.state.isTerminal = false := by simpa using ended
      have underway' := (OnSchedule.of_active active).mp schedule
      obtain ⟨stage, going⟩ := PollResult.eq_inProgress
        ((PollResult.isTerminal_ofState job'.state).trans active)
      rw [going] at response
      rw [← config] at underway'
      have rests := ih later others known' coherent' underway' punctualLater
      rw [List.flatMap_cons, ← List.append_assoc, ← config]
      rcases rests with ⟨job'', underway''⟩ |
        ⟨early, late, job'', rfl, before, after, last, ended, other, due⟩
      · refine .inl ⟨job'', ?_⟩
        rwa [List.length_cons, Nat.add_comm rest.length, ← Nat.add_assoc]
      · refine .inr ⟨e :: early, late, job'', rfl, ?_, after, last, ended, other, ?_⟩
        · exact List.forall_mem_cons.mpr ⟨⟨stage, response⟩, before⟩
        · rwa [List.length_cons, Nat.add_comm early.length, ← Nat.add_assoc]

/-! ## Tick by tick -/

theorem runTicks_of_ended {result : PollResult} {n : Nat}
    (polled : (c.poll handle).perform r s = ⟨(.ok result, c'), s', events⟩)
    (ended : result.isTerminal = true) :
    (runTicks handle interval deadline started (n + 1) c).perform r s =
      ⟨(some (.ok result), c'), s', events⟩ := by
  rw [runTicks, Dialogue.perform_bind, polled]
  simp only [ended, if_true]
  simp [pure, Dialogue.perform]

theorem runTicks_of_going (interval started : Duration) {result : PollResult}
    (polled : (c.poll handle).perform r s = ⟨(.ok result, c'), s', events⟩)
    (going : result.isTerminal = false) :
    ∃ (pauses : List ActEvent) (world : σ), (∀ e ∈ pauses, Pause e) ∧
      ∀ n, (runTicks handle interval none started (n + 1) c).perform r s =
        let rest := (runTicks handle interval none started n c').perform r world
        { rest with events := events ++ pauses ++ rest.events } := by
  let timed := r.answer .clock s'
  let slept := r.answer (.sleep interval) timed.2
  refine ⟨[.asked .clock timed.1, .asked (.sleep interval) slept.1], slept.2, ?_, ?_⟩
  · simp [Pause.clock, Pause.sleep]
  · intro n
    rw [runTicks, Dialogue.perform_bind, polled]
    simp only [going, Bool.false_eq_true, if_false, List.append_assoc]
    rfl

/-- A run of a job at work, without a deadline: after all its ticks the job is still at work, or
the run has ended with the poll that was due. With fewer ticks it would not have, and with more it
would have been the same. -/
theorem runTicks_onSchedule {ticks : Nat} (known : c.find? handle = some job)
    (coherent : job.Coherent) (underway : job.Underway c.config.pipeline copied k past polls)
    (punctual : Punctual k (tally past)
      (toolCalls ((runTicks handle interval none started ticks c).perform r s).events)) :
    let p := (runTicks handle interval none started ticks c).perform r s
    (∃ job' : Job, job'.Underway c.config.pipeline copied k (past ++ p.events) (polls + ticks)) ∨
    ∃ used result, p.value.1 = some (.ok result) ∧ result.isTerminal = true ∧
      result ≠ .cancelled ∧ Due c.config.pipeline copied k (past ++ p.events) (polls + used) ∧
      ∀ n, (n < used →
          ((runTicks handle interval none started n c).perform r s).value.1 = none) ∧
        (used ≤ n → (runTicks handle interval none started n c).perform r s = p) := by
  intro p
  induction ticks generalizing c s job past polls with
  | zero => exact .inl ⟨job, by simpa [p, runTicks, pure, Dialogue.perform] using underway⟩
  | succ ticks ih =>
    have poll := poll_course ((c.poll handle).perform_course r s)
    have first : ∃ rest, p.events = ((c.poll handle).perform r s).events ++ rest := by
      simp only [p, runTicks, Dialogue.perform_bind]
      exact ⟨_, rfl⟩
    obtain ⟨rest, split⟩ := first
    have punctualHere := punctual
    rw [show ((runTicks handle interval none started (ticks + 1) c).perform r s).events = _ from
      split, punctual_append_events] at punctualHere
    obtain ⟨job', said, other, known', coherent', config, schedule⟩ :=
      poll.onSchedule known coherent underway punctualHere.1
    generalize polled : (c.poll handle).perform r s = look at *
    obtain ⟨⟨result, c'⟩, s', events⟩ := look
    dsimp only at said known' config schedule
    subst said
    by_cases ended : job'.state.isTerminal = true
    · have due := (OnSchedule.of_terminal ended).mp schedule
      have terminal := (PollResult.isTerminal_ofState job'.state).trans ended
      have all : ∀ n, (runTicks handle interval none started (n + 1) c).perform r s = _ :=
        fun n => runTicks_of_ended polled terminal
      have whole : p = ⟨(some (.ok (.ofState job'.state)), c'), s', events⟩ := all ticks
      rw [whole]
      refine .inr ⟨1, .ofState job'.state, rfl, terminal, other, due, fun n => ⟨?_, ?_⟩⟩
      · intro fewer
        rw [Nat.lt_one_iff.mp fewer]
        rfl
      · intro enough
        obtain ⟨m, rfl⟩ := Nat.exists_eq_add_of_le' enough
        exact all m
    · have active : job'.state.isTerminal = false := by simpa using ended
      have going := (PollResult.isTerminal_ofState job'.state).trans active
      obtain ⟨pauses, world, paused, all⟩ := runTicks_of_going interval started polled going
      have underway' := ((OnSchedule.of_active active).mp schedule).pauses paused
      rw [← config] at underway'
      have whole : p = _ := all ticks
      rw [all ticks, punctual_append_events, ← List.append_assoc] at punctual
      have rests := ih known' coherent' underway' punctual.2
      rw [whole, ← config, ← List.append_assoc, ← List.append_assoc, Nat.add_comm ticks,
        ← Nat.add_assoc]
      rcases rests with going | ⟨used, result, value, terminal, other, due, each⟩
      · exact .inl going
      · refine .inr ⟨used + 1, result, value, terminal, other, ?_, fun n => ?_⟩
        · rwa [Nat.add_comm used, ← Nat.add_assoc]
        · cases n with
          | zero => exact ⟨fun _ => rfl, fun enough => by omega⟩
          | succ n =>
            obtain ⟨fewer, enough⟩ := each n
            rw [all n]
            refine ⟨fun less => fewer (by omega), fun more => ?_⟩
            simp only [enough (by omega), List.append_assoc]

/-! ## The poll that is due -/

/-- No job is at work after as many polls as both tools can take. -/
theorem ended_of_onSchedule {ended : Prop}
    (stops : (∃ job' : Job, job'.Underway options copied k past (k 1 + k 2 + 3)) ∨ ended) :
    ended := by
  rcases stops with ⟨job', underway⟩ | ended
  · have bound := underway.polls_lt
    omega
  · exact ended

/-- What comes of polling a job so many times. -/
def polling (r : Surroundings σ) (c : Converter) (handle : JobHandle) (s : σ) (n : Nat) :
    History σ :=
  History.of r (List.replicate n (.poll handle)) c s

theorem calls_of_polling (r : Surroundings σ) (c : Converter) (handle : JobHandle) (s : σ)
    (n : Nat) : (polling r c handle s n).exchanges.map (·.call) = List.replicate n (.poll handle) :=
  History.calls_of r _ c s

/-- More polls only add to the history of fewer. -/
theorem polling_append (r : Surroundings σ) (c : Converter) (handle : JobHandle) (s : σ)
    (n more : Nat) : (polling r c handle s (n + more)).exchanges =
      (polling r c handle s n).exchanges ++ (polling r (polling r c handle s n).converter handle
        (polling r c handle s n).world more).exchanges := by
  rw [polling, List.replicate_add, History.of_append]
  rfl

theorem call_of_polling {c : Converter} {s : σ} {n : Nat} :
    ∀ e ∈ (polling r c handle s n).exchanges, e.call = .poll handle := by
  intro e there
  have called : e.call ∈ (polling r c handle s n).exchanges.map (·.call) :=
    List.mem_map_of_mem there
  rw [calls_of_polling] at called
  exact List.eq_of_mem_replicate called

/-- The polls of a job that has been taken on are in progress up to the one that is due, and from
then on they tell how the job has ended. -/
theorem polling_onSchedule (known : c.find? handle = some job) (coherent : job.Coherent)
    (underway : job.Underway c.config.pipeline copied k [] 0)
    (punctual : Punctual k {} (toolCalls (polling r c handle s (k 1 + k 2 + 3)).events)) :
    ∃ last result,
      Due c.config.pipeline copied k (polling r c handle s (k 1 + k 2 + 3)).events last ∧
      result.isTerminal = true ∧ result ≠ .cancelled ∧
      ∀ n, (∀ e ∈ (polling r c handle s n).exchanges.take (last - 1),
          ∃ stage, e.response = .polled (.ok (.inProgress stage))) ∧
        ∀ e ∈ (polling r c handle s n).exchanges.drop (last - 1),
          e.response = .polled (.ok result) := by
  let h := polling r c handle s (k 1 + k 2 + 3)
  have length : h.exchanges.length = k 1 + k 2 + 3 := by
    have lengths := congrArg List.length (calls_of_polling r c handle s (k 1 + k 2 + 3))
    simpa using lengths
  have linked : History.Linked r c s h.exchanges h.converter h.world :=
    History.of_linked r _ c s
  have stops := Linked.onSchedule linked call_of_polling known coherent underway punctual
  rw [length, Nat.zero_add] at stops
  obtain ⟨early, late, job', split, before, after, found, ended, other, due⟩ :=
    ended_of_onSchedule stops
  refine ⟨early.length + 1, .ofState job'.state, by simpa [History.events] using due,
    (PollResult.isTerminal_ofState job'.state).trans ended, other, ?_⟩
  intro n
  -- all polls, those made after the job has ended included, begin with the `n` at hand
  have whole : ∃ rest, (polling r c handle s n).exchanges ++ rest = early ++ (late ++
      (polling r h.converter handle h.world n).exchanges) := by
    refine ⟨_, (polling_append r c handle s n (k 1 + k 2 + 3)).symm.trans ?_⟩
    rw [Nat.add_comm, polling_append, ← List.append_assoc, ← split]
  obtain ⟨rest, whole⟩ := whole
  have linked' := History.of_linked r (List.replicate n (.poll handle)) h.converter h.world
  obtain ⟨-, -, rests⟩ := Linked.polls_of_terminal linked' call_of_polling found ended
  rw [Nat.add_sub_cancel]
  constructor
  · intro e there
    have within : e ∈ ((polling r c handle s n).exchanges ++ rest).take early.length := by
      rw [List.take_append]
      exact List.mem_append_left _ there
    rw [whole, List.take_left] at within
    exact before e within
  · intro e there
    have within : e ∈ ((polling r c handle s n).exchanges ++ rest).drop early.length := by
      rw [List.drop_append]
      exact List.mem_append_left _ there
    rw [whole, List.drop_left] at within
    rcases List.mem_append.mp within with here | later
    · exact after e here
    · exact rests e later

/-- What a start that is accepted leaves is a job before its first poll. -/
theorem underway_of_started {source workDir : Path}
    (accepted : ((c.start source workDir).perform r s).value.1 = .ok handle) :
    ∃ job : Job, ((c.start source workDir).perform r s).value.2.find? handle = some job ∧
      job.Coherent ∧ ((c.start source workDir).perform r s).value.2.config = c.config ∧
      ∀ past, toolCalls past = [] →
        job.Underway c.config.pipeline (c.config.pipeline.isIntermediate source) k past 0 := by
  have course := (c.start source workDir).perform_course r s
  generalize (c.start source workDir).perform r s = p at accepted course ⊢
  obtain ⟨⟨result, c'⟩, s', events⟩ := p
  subst accepted
  have conduct := start_conduct course
  cases conduct with
  | @registered _ _ _ staged idle prepared =>
    have coherent := coherent_register source workDir staged (c := c) _ rfl
    refine ⟨_, find?_eq_some.mpr ⟨rfl, rfl⟩, coherent, rfl, ?_⟩
    intro past untouched
    obtain ⟨copies, plain⟩ := prepared.staged_eq
    refine ⟨untouched, rfl, ?_⟩
    cases intermediate : c.config.pipeline.isIntermediate source with
    | true =>
      obtain ⟨name, -, -, copied⟩ := copies intermediate
      simp [copied]
    | false => simp [plain intermediate]
  | worked other => cases other

/-- For a job that has been accepted, whose `i`-th tool is at work in the first `k i` waits and not
in the next one: the first poll ends the job if no tool can be started; poll `k 1 + 2` does if the
source was staged, or if something goes wrong before a second tool is at work; and otherwise poll
`k 1 + k 2 + 3` does. Up to there the job is in progress, and then it has finished or failed. A run
without a deadline returns with just that poll. -/
theorem job_terminal_after_polls {σ : Type} (r : Surroundings σ) (c : Converter)
    (source workDir : Path) (handle : JobHandle) (k : Nat → Nat) (interval : Duration) (s : σ)
    (accepted : ((c.start source workDir).perform r s).value.1 = .ok handle) :
    let p := (c.start source workDir).perform r s
    let staged := c.config.pipeline.isIntermediate source
    let polls := polling r p.value.2 handle p.state
    let run := fun n => (p.value.2.runToCompletion handle interval none n).perform r p.state
    let longest := k 1 + k 2 + 3
    (Punctual k {} (toolCalls (polls longest).events) →
      ∃ last result, (∀ n, Due c.config.pipeline staged k (polls longest).events n ↔ n = last) ∧
        result.isTerminal = true ∧ result ≠ .cancelled ∧
        ∀ n, (∀ e ∈ (polls n).exchanges.take (last - 1),
            ∃ stage, e.response = .polled (.ok (.inProgress stage))) ∧
          ∀ e ∈ (polls n).exchanges.drop (last - 1), e.response = .polled (.ok result)) ∧
    (Punctual k {} (toolCalls (run longest).events) →
      ∃ last result, (∀ n, Due c.config.pipeline staged k (run longest).events n ↔ n = last) ∧
        result.isTerminal = true ∧ result ≠ .cancelled ∧
        (run longest).value.1 = some (.ok result) ∧
        ∀ n, (n < last → (run n).value.1 = none) ∧ (last ≤ n → run n = run longest)) := by
  intro p staged polls run longest
  obtain ⟨job, known, coherent, config, underway⟩ := underway_of_started (k := k) accepted
  rw [← config] at underway
  constructor
  · intro punctual
    obtain ⟨last, result, due, terminal, other, each⟩ :=
      polling_onSchedule known coherent (underway [] rfl) punctual
    rw [config] at due
    exact ⟨last, result, fun n => ⟨fun due' => due'.unique due, fun same => same ▸ due⟩, terminal,
      other, each⟩
  · intro punctual
    let timed := r.answer .clock p.state
    have clocked : ∀ n, run n =
        let rest := (runTicks handle interval none timed.1 n p.value.2).perform r timed.2
        ⟨rest.value, rest.state, .asked .clock timed.1 :: rest.events⟩ := fun _ => rfl
    have stops := runTicks_onSchedule known coherent (underway [.asked .clock timed.1] rfl) punctual
    rw [Nat.zero_add] at stops
    obtain ⟨last, result, value, terminal, other, due, each⟩ := ended_of_onSchedule stops
    rw [Nat.zero_add, config] at due
    refine ⟨last, result, fun n => ⟨fun due' => due'.unique due, fun same => same ▸ due⟩, terminal,
      other, value, fun n => ?_⟩
    obtain ⟨fewer, enough⟩ := each n
    refine ⟨fewer, fun more => ?_⟩
    rw [clocked, clocked, enough more]

/-- A rehearsal in which the first tool has ended at its first wait and the second one at its second
wait: the job finishes with the fourth poll. -/
theorem rehearsed_job_terminal_after_polls :
    let k := fun i => i - 1
    let p := (start { config := {} } (.ofString "talk.odp") (.ofString "work")).perform
      Rehearsal.surroundings Rehearsal.slides
    let polls := polling Rehearsal.surroundings p.value.2 ⟨1⟩ p.state
    let run := fun n => (p.value.2.runToCompletion ⟨1⟩ ⟨0⟩ none n).perform
      Rehearsal.surroundings p.state
    p.value.1 = .ok ⟨1⟩ ∧ Punctual k {} (toolCalls (polls 4).events) ∧
      Punctual k {} (toolCalls (run 4).events) ∧
      (∃ last result, Due {} false k (polls 4).events last ∧ result ≠ .cancelled ∧
        ∀ e ∈ (polls 4).exchanges.drop (last - 1), e.response = .polled (.ok result)) ∧
      Due {} false k (run 4).events 4 ∧ (run 3).value.1 = none ∧
      (run 4).value.1 = some (.ok .finished) := by
  intro k p polls run
  have accepted : p.value.1 = .ok ⟨1⟩ := by decide +kernel
  have polled : Punctual k {} (toolCalls (polls 4).events) := by decide +kernel
  have ran : Punctual k {} (toolCalls (run 4).events) := by decide +kernel
  have three : (run 3).value.1 = none := by decide +kernel
  have four : (run 4).value.1 = some (.ok .finished) := by decide +kernel
  obtain ⟨byPolls, byRun⟩ := job_terminal_after_polls Rehearsal.surroundings { config := {} }
    (.ofString "talk.odp") (.ofString "work") ⟨1⟩ k ⟨0⟩ Rehearsal.slides accepted
  obtain ⟨last, result, due, -, other, each⟩ := byPolls polled
  obtain ⟨last', result', due', -, -, -, ticks⟩ := byRun ran
  have early : ¬ last' ≤ 3 := by
    intro enough
    have same : run 3 = run 4 := (ticks 3).2 enough
    rw [same, four] at three
    cases three
  have late : ¬ 4 < last' := by
    intro fewer
    have unfinished : (run 4).value.1 = none := (ticks 4).1 fewer
    rw [four] at unfinished
    cases unfinished
  have plain : ({} : Config).pipeline.isIntermediate (.ofString "talk.odp") = false := by
    decide +kernel
  have fourth : 4 = last' := by omega
  rw [plain] at due due'
  exact ⟨accepted, polled, ran, ⟨last, result, (due last).mpr rfl, other, (each 4).2⟩,
    (due' 4).mpr fourth, three, four⟩

end Converter

end SlideConverter

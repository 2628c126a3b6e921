import SlideConverter.Proofs.Conversion.ToolOrder

/-!
# Runs and deadlines

A run polls the job until a poll ends it, or until the clock, read after a poll that has not ended
it, shows that the deadline has passed; then the job is cancelled there and then. The clock may
show what it likes. How many polls a run may make is up to the caller, but once a run has
returned, more of them would have changed nothing.
-/

namespace SlideConverter

namespace Dialogue

variable {Q : Type} {A : Q → Type} {N σ α β : Type}

/-- What follows a dialogue only counts for the value and the state that it ends with. -/
theorem perform_bind_congr {r : Respondent Q A σ} {d : Dialogue Q A N α}
    {k k' : α → Dialogue Q A N β} {s : σ}
    (same : (k (d.perform r s).value).perform r (d.perform r s).state =
      (k' (d.perform r s).value).perform r (d.perform r s).state) :
    (d >>= k).perform r s = (d >>= k').perform r s := by
  simp only [perform_bind, same]

end Dialogue

/-- Nobody sleeps, and no tool is started or waited for. -/
structure Restful (events : List ActEvent) : Prop where
  sleeps : ∀ duration done, .asked (.sleep duration) done ∉ events
  starts : launches events = []
  waits : ∀ process answer, .asked (.tryWait process) answer ∉ events

/-- A poll of a run that has not ended the job, and the time that the clock shows right after. -/
structure Tick where
  polling : List ActEvent
  stage : Option Stage
  after : Converter
  now : Duration

/-- The deadline has passed by the end of the tick. -/
def Tick.Late (deadline : Option Duration) (started : Duration) (t : Tick) : Prop :=
  ∃ limit, deadline = some limit ∧ limit.nanoseconds ≤ t.now.nanoseconds - started.nanoseconds

/-- What is asked in a tick, up to the next one. -/
def Tick.events (interval : Duration) (t : Tick) : List ActEvent :=
  t.polling ++ [.asked .clock t.now, .asked (.sleep interval) ()]

theorem PollResult.eq_inProgress {result : PollResult} (going : result.isTerminal = false) :
    ∃ stage, result = .inProgress stage := by
  cases result with
  | inProgress stage => exact ⟨stage, rfl⟩
  | finished | cancelled | failed => cases going

namespace Job

variable {config : Config} {job job' : Job} {events : List ActEvent}

/-- A turn that ends a job does not cancel it. -/
theorem Turn.finished_or_failed
    (active : job.state.isTerminal = false) (turn : Turn config job events job')
    (ended : job'.state.isTerminal = true) :
    job'.state = .finished ∨ ∃ failure, job'.state = .failed failure := by
  cases turn with
  | moved move =>
    have kept := move.not_isGivenUp active
    cases state : job'.state <;> simp_all [JobState.isTerminal, JobState.isGivenUp]
  | failed fault _ abort =>
    cases abort
    exact .inr ⟨fault.failure, rfl⟩

theorem Abort.restful {last : JobState} (abort : Abort job last events job') :
    Restful events := by
  refine ⟨?_, abort.launches_eq_nil, ?_⟩
  · intro duration done asked
    obtain ⟨kill, cleanup⟩ := abort
    rcases List.mem_append.mp asked with asked | asked
    · cases kill <;> simp at asked
    · cases cleanup <;> simp at asked
  · intro process answer asked
    obtain ⟨kill, cleanup⟩ := abort
    rcases List.mem_append.mp asked with asked | asked
    · cases kill <;> simp at asked
    · cases cleanup <;> simp at asked

end Job

open Job

namespace Converter

/-- The ticks lead from one converter to another, poll by poll. -/
def Ticks (handle : JobHandle) : Converter → List Tick → Converter → Prop
  | c, [], c' => c' = c
  | c, t :: rest, c' =>
    (c.poll handle).Course t.polling (.ok (.inProgress t.stage), t.after) ∧
      Ticks handle t.after rest c'

/-- How the run of an active job comes to its end: a poll ends the job, whatever the time, or the
deadline has passed after a poll that has not. -/
inductive RunEnd (handle : JobHandle) (interval : Duration) (deadline : Option Duration)
    (started : Duration) (c : Converter) :
    List Tick → List ActEvent → PollResult → Converter → Prop
  | polled {ticks : List Tick} {between c' : Converter} {polling : List ActEvent}
      {result : PollResult} (ticked : Ticks handle c ticks between)
      (early : ∀ t ∈ ticks, ¬ t.Late deadline started)
      (poll : (between.poll handle).Course polling (.ok result, c'))
      (outcome : result = .finished ∨ ∃ failure, result = .failed failure) :
    RunEnd handle interval deadline started c ticks
      (ticks.flatMap (·.events interval) ++ polling) result c'
  | overdue {waited : List Tick} {last : Tick} {c' : Converter} {cancelling : List ActEvent}
      (limit : Duration) (set : deadline = some limit)
      (ticked : Ticks handle c (waited ++ [last]) last.after)
      (early : ∀ t ∈ waited, ¬ t.Late deadline started) (late : last.Late deadline started)
      (cancel : (last.after.cancel handle).Course cancelling (.ok (), c'))
      (restful : Restful cancelling) :
    RunEnd handle interval deadline started c (waited ++ [last])
      (waited.flatMap (·.events interval) ++ (last.polling ++ .asked .clock last.now ::
        .noted (.deadlineExceeded handle limit) :: cancelling)) .cancelled c'

variable {c c' : Converter} {handle : JobHandle} {interval started : Duration}
  {deadline : Option Duration} {events : List ActEvent} {job : Job}

theorem reached_eq_none {elapsed : Nat} : reached deadline elapsed = none ↔
    ¬ ∃ limit, deadline = some limit ∧ limit.nanoseconds ≤ elapsed := by
  cases deadline <;> simp [reached, Option.filter]

theorem reached_eq_some {elapsed : Nat} {limit : Duration} : reached deadline elapsed = some limit ↔
    deadline = some limit ∧ limit.nanoseconds ≤ elapsed := by
  simp [reached, Option.filter_eq_some_iff]

theorem RunEnd.cancelled_iff {ticks : List Tick} {result : PollResult}
    (ending : RunEnd handle interval deadline started c ticks events result c') :
    result = .cancelled ↔ ∃ t ∈ ticks, t.Late deadline started := by
  cases ending with
  | polled _ early _ outcome =>
    have other : result ≠ .cancelled := by
      rcases outcome with rfl | ⟨failure, rfl⟩ <;> simp
    simpa [other] using early
  | @overdue waited last _ _ _ _ _ _ late =>
    exact ⟨fun _ => ⟨last, by simp, late⟩, fun _ => rfl⟩

/-- One more tick in front. -/
theorem RunEnd.cons {ticks : List Tick} {result : PollResult} {t : Tick}
    (poll : (c.poll handle).Course t.polling (.ok (.inProgress t.stage), t.after))
    (early : ¬ t.Late deadline started)
    (rest : RunEnd handle interval deadline started t.after ticks events result c') :
    RunEnd handle interval deadline started c (t :: ticks) (t.events interval ++ events) result
      c' := by
  cases rest with
  | polled ticked before ending outcome =>
    rw [← List.append_assoc]
    exact .polled ⟨poll, ticked⟩ (List.forall_mem_cons.mpr ⟨early, before⟩) ending outcome
  | overdue limit set ticked before late cancel restful =>
    rw [← List.append_assoc]
    have whole : Ticks handle c (t :: _) _ := ⟨poll, ticked⟩
    exact .overdue limit set whole (List.forall_mem_cons.mpr ⟨early, before⟩) late cancel restful

/-! ## What a run comes to -/

/-- A look that finds the job gives a result, and one that does not gives an error. -/
theorem Poll.known_before {result : PollResult} (poll : Poll c handle events (.ok result) c') :
    ∃ job, c.find? handle = some job := by
  cases poll with
  | ended known _ => exact ⟨_, known⟩
  | turned known _ _ => exact ⟨_, known⟩

theorem Poll.result_eq {result : PollResult} (poll : Poll c handle events (.ok result) c')
    (found : c'.find? handle = some job) : result = .ofState job.state := by
  obtain ⟨current, -⟩ := find?_eq_some.mp found
  cases poll with
  | ended known _ =>
    rw [found] at known
    cases known
    rfl
  | turned _ _ _ =>
    cases current
    rfl

theorem Cancel.known_after (cancel : Cancel c handle events (.ok ()) c') :
    ∃ job, c'.find? handle = some job ∧ job.state.isTerminal = true := by
  cases cancel with
  | ended known terminal => exact ⟨_, known, terminal⟩
  | aborted known _ abort =>
    obtain ⟨-, named⟩ := find?_eq_some.mp known
    refine ⟨_, find?_eq_some.mpr ⟨rfl, abort.identity.handle.trans named⟩, ?_⟩
    cases abort
    rfl

theorem state_of_found (found : c.find? handle = some job) :
    c.state handle = .ok job.state := by
  simp [Converter.state, inspect, found]

/-- Whatever a run returns is the state of the job in the end, which is a last one. -/
theorem Run.result_eq {ticks : Nat} {result : PollResult}
    (run : Run handle interval deadline started ticks c events (some (.ok result)) c') :
    result.isTerminal = true ∧ ∃ job, c'.find? handle = some job ∧ result = .ofState job.state := by
  generalize same : some (Except.ok result) = outcome at run
  induction run with
  | exhausted | refused => cases same
  | ended poll terminal =>
    cases same
    obtain ⟨job, found⟩ := poll.known
    exact ⟨terminal, job, found, poll.result_eq found⟩
  | late _ _ _ _ _ cancel =>
    obtain ⟨job, found, terminal⟩ := cancel.known_after
    rw [state_of_found found] at same
    cases same
    exact ⟨by rw [PollResult.isTerminal_ofState, terminal], job, found, rfl⟩
  | again _ _ _ _ _ _ ih => exact ih same

/-- A run is refused if the handle is not that of the current job, and then nothing at all is
asked. -/
theorem Run.error_iff {ticks : Nat} {result : Except ConversionError PollResult}
    (run : Run handle interval deadline started ticks c events (some result) c') :
    ((∃ error, result = .error error) ↔ c.find? handle = none) ∧
      (c.find? handle = none → events = [] ∧ c' = c) := by
  generalize same : some result = outcome at run
  induction run with
  | exhausted => cases same
  | refused poll =>
    cases same
    cases poll with
    | unknown absent => exact ⟨⟨fun _ => absent, fun _ => ⟨_, rfl⟩⟩, fun _ => ⟨rfl, rfl⟩⟩
  | ended poll =>
    cases same
    obtain ⟨job, known⟩ := poll.known_before
    simp [known]
  | late poll _ _ _ _ cancel =>
    obtain ⟨job, known⟩ := poll.known_before
    obtain ⟨job', found, -⟩ := cancel.known_after
    rw [state_of_found found] at same
    cases same
    simp [known, Except.map]
  | again poll _ _ _ _ _ ih =>
    obtain ⟨job, known⟩ := poll.known_before
    obtain ⟨job', found⟩ := poll.known
    have going_on := (ih same).1
    simp [found] at going_on
    simp [known, going_on]

/-! ## Tick by tick -/

theorem Cancel.restful {result : Except ConversionError Unit}
    (cancel : Cancel c handle events result c') : Restful events := by
  cases cancel with
  | unknown | ended => exact ⟨by simp, rfl, by simp⟩
  | aborted _ _ abort => exact abort.restful

/-- A job that is cancelled while it is active is cancelled then. -/
theorem Cancel.state_eq {result : Except ConversionError Unit} (known : c.find? handle = some job)
    (active : job.state.isTerminal = false) (cancel : Cancel c handle events result c') :
    c'.state handle = .ok .cancelled := by
  cases cancel with
  | unknown absent => simp [known] at absent
  | ended known' ended =>
    rw [known] at known'
    cases known'
    simp [active] at ended
  | aborted known' _ abort =>
    obtain ⟨-, named⟩ := find?_eq_some.mp known'
    rw [state_of_found (find?_eq_some.mpr ⟨rfl, abort.identity.handle.trans named⟩)]
    cases abort
    rfl

/-- A poll of an active job is a turn of it. -/
theorem Poll.of_active {result : Except ConversionError PollResult}
    (known : c.find? handle = some job) (active : job.state.isTerminal = false)
    (poll : Poll c handle events result c') :
    ∃ job', result = .ok (.ofState job'.state) ∧ c' = c.withJob job' ∧
      c'.find? handle = some job' ∧ Turn c.config job events job' := by
  cases poll with
  | unknown absent => simp [known] at absent
  | ended known' ended =>
    rw [known] at known'
    cases known'
    simp [active] at ended
  | @turned _ job' _ known' _ turn =>
    rw [known] at known'
    cases known'
    obtain ⟨-, named⟩ := find?_eq_some.mp known
    have found : (c.withJob job').find? handle = some job' :=
      find?_eq_some.mpr ⟨rfl, turn.identity.handle.trans named⟩
    exact ⟨job', rfl, rfl, found, turn⟩

theorem Poll.outcome {result : PollResult} (known : c.find? handle = some job)
    (active : job.state.isTerminal = false) (poll : Poll c handle events (.ok result) c')
    (terminal : result.isTerminal = true) :
    result = .finished ∨ ∃ failure, result = .failed failure := by
  obtain ⟨job', said, -, -, turn⟩ := poll.of_active known active
  cases said
  rw [PollResult.isTerminal_ofState] at terminal
  rcases turn.finished_or_failed active terminal with state | ⟨failure, state⟩
  · exact .inl (by rw [state]; rfl)
  · exact .inr ⟨failure, by rw [state]; rfl⟩

theorem Poll.still_active {result : PollResult} (known : c.find? handle = some job)
    (active : job.state.isTerminal = false) (poll : Poll c handle events (.ok result) c')
    (going : result.isTerminal = false) :
    ∃ job', c'.find? handle = some job' ∧ job'.state.isTerminal = false := by
  obtain ⟨job', said, -, found, -⟩ := poll.of_active known active
  cases said
  rw [PollResult.isTerminal_ofState] at going
  exact ⟨job', found, going⟩

/-- The run of an active job is a row of ticks with an end. -/
theorem runEnd_of_course {ticks : Nat} {result : PollResult} (known : c.find? handle = some job)
    (active : job.state.isTerminal = false)
    (course : (runTicks handle interval deadline started ticks c).Course events
      (some (.ok result), c')) :
    ∃ passed, RunEnd handle interval deadline started c passed events result c' := by
  induction ticks generalizing c job events with
  | zero =>
    obtain ⟨-, same⟩ := Dialogue.course_pure.mp course
    cases same
  | succ ticks ih =>
    obtain ⟨polling, ⟨polled, between⟩, rest, rfl, looked, after⟩ := Dialogue.course_bind.mp course
    have poll := poll_course looked
    cases polled with
    | error error =>
      obtain ⟨-, same⟩ := Dialogue.course_pure.mp after
      cases same
    | ok seen =>
      dsimp only at after
      split at after
      · rename_i terminal
        obtain ⟨rfl, same⟩ := Dialogue.course_pure.mp after
        cases same
        have outcome := poll.outcome known active terminal
        rw [List.append_nil]
        exact ⟨[], .polled rfl (by simp) looked outcome⟩
      · rename_i going
        have going : seen.isTerminal = false := by simpa using going
        obtain ⟨now, rest, rfl, timed⟩ := course_ask_bind.mp after
        obtain ⟨stage, rfl⟩ := PollResult.eq_inProgress going
        obtain ⟨job', known', active'⟩ := poll.still_active known active going
        let tick : Tick := ⟨polling, stage, between, now⟩
        split at timed
        · rename_i limit past
          obtain ⟨set, late⟩ := reached_eq_some.mp past
          obtain ⟨rest, rfl, noted⟩ := course_warn_bind.mp timed
          obtain ⟨cancelling, ⟨cancelled, last⟩, rest, rfl, cancelCourse, done⟩ :=
            Dialogue.course_bind.mp noted
          have cancel := cancel_course cancelCourse
          cases cancelled with
          | error error =>
            obtain ⟨-, same⟩ := Dialogue.course_pure.mp done
            cases same
          | ok nothing =>
            obtain ⟨rfl, same⟩ := Dialogue.course_pure.mp done
            rw [cancel.state_eq known' active'] at same
            cases same
            rw [List.append_nil]
            have ticked : Ticks handle c ([] ++ [tick]) tick.after := ⟨looked, rfl⟩
            exact ⟨[] ++ [tick], .overdue limit set ticked (by simp) ⟨limit, set, late⟩
              cancelCourse cancel.restful⟩
        · rename_i early
          obtain ⟨slept, rest, rfl, continued⟩ := course_ask_bind.mp timed
          obtain ⟨passed, ending⟩ := ih known' active' continued
          have whole := ending.cons (t := tick) looked (reached_eq_none.mp early)
          refine ⟨tick :: passed, ?_⟩
          simpa [Tick.events, tick] using whole

/-! ## The bound on the polls -/

/-- A run that has returned is the same with more polls allowed. -/
theorem runTicks_perform_add {σ : Type} {r : Surroundings σ} {s : σ} {ticks : Nat} (more : Nat)
    (returned : ((runTicks handle interval deadline started ticks c).perform r s).value.1 ≠ none) :
    (runTicks handle interval deadline started (ticks + more) c).perform r s =
      (runTicks handle interval deadline started ticks c).perform r s := by
  induction ticks generalizing c s with
  | zero => exact absurd rfl returned
  | succ ticks ih =>
    rw [Nat.add_right_comm, runTicks, runTicks]
    rw [runTicks, Dialogue.perform_bind] at returned
    refine Dialogue.perform_bind_congr ?_
    generalize (c.poll handle).perform r s = polled at returned ⊢
    obtain ⟨⟨result, between⟩, s', events⟩ := polled
    cases result with
    | error error => rfl
    | ok result =>
      dsimp only at returned ⊢
      split
      · rfl
      · rename_i going
        rw [if_neg going, Dialogue.perform_bind] at returned
        refine Dialogue.perform_bind_congr ?_
        generalize (ask Question.clock).perform r s' = timed at returned ⊢
        obtain ⟨now, s'', events⟩ := timed
        dsimp only at returned ⊢
        split
        · rfl
        · rename_i early
          simp only [early, Dialogue.perform_bind] at returned
          refine Dialogue.perform_bind_congr ?_
          exact ih returned

theorem find?_eq_none : c.find? handle = none ↔ ∀ job, c.job = some job → job.handle ≠ handle := by
  simp [find?, Option.filter_eq_none_iff]

/-- A run that has returned was refused exactly if the handle is not that of the current job, and
then only the clock was read. Otherwise it tells the last state of the job. An active job has been
cancelled exactly if the deadline had passed after a poll that did not end it: that was the first
such poll, and no poll and no sleep came after it. A poll that ends the job counts whatever the
time is. -/
theorem run_ends_by_poll_or_deadline {σ : Type} (r : Surroundings σ) (c : Converter)
    (handle : JobHandle) (interval : Duration) (deadline : Option Duration) (maxTicks : Nat)
    (s : σ) :
    let p := (c.runToCompletion handle interval deadline maxTicks).perform r s
    (p.value.1 ≠ none → ∀ more,
      (c.runToCompletion handle interval deadline (maxTicks + more)).perform r s = p) ∧
    (p.value.1 ≠ none → ((∃ error, p.value.1 = some (.error error)) ↔
      ∀ job, c.job = some job → job.handle ≠ handle)) ∧
    (∀ error, p.value.1 = some (.error error) →
      p.value.2 = c ∧ ∃ time, p.events = [.asked .clock time]) ∧
    (∀ result, p.value.1 = some (.ok result) → result.isTerminal = true ∧
      ∃ job, p.value.2.job = some job ∧ job.handle = handle ∧ result = .ofState job.state) ∧
    (∀ job result, c.job = some job → job.handle = handle → job.state.isTerminal = false →
      p.value.1 = some (.ok result) →
      ∃ started ticks events, p.events = .asked .clock started :: events ∧
        RunEnd handle interval deadline started c ticks events result p.value.2 ∧
        (result = .cancelled ↔ ∃ t ∈ ticks, t.Late deadline started)) := by
  intro p
  have course := (c.runToCompletion handle interval deadline maxTicks).perform_course r s
  obtain ⟨started, ticking, shown, ticked⟩ := course_ask_bind.mp course
  change p.events = .asked .clock started :: ticking at shown
  change (runTicks handle interval deadline started maxTicks c).Course ticking p.value at ticked
  have run : Run handle interval deadline started maxTicks c ticking p.value.1 p.value.2 :=
    run_course ticked
  refine ⟨?_, ?_, ?_, ?_, ?_⟩
  · intro returned more
    rw [show p = (c.runToCompletion handle interval deadline maxTicks).perform r s from rfl]
    rw [runToCompletion, runToCompletion]
    refine Dialogue.perform_bind_congr (runTicks_perform_add more ?_)
    exact returned
  · intro returned
    obtain ⟨result, value⟩ := Option.ne_none_iff_exists'.mp returned
    rw [value] at run
    rw [value, ← find?_eq_none, ← run.error_iff.1]
    simp
  · intro error value
    rw [value] at run
    obtain ⟨nothing, same⟩ := run.error_iff.2 (run.error_iff.1.mp ⟨error, rfl⟩)
    rw [nothing] at shown
    exact ⟨same, started, shown⟩
  · intro result value
    rw [value] at run
    obtain ⟨terminal, job, found, same⟩ := run.result_eq
    obtain ⟨current, named⟩ := find?_eq_some.mp found
    exact ⟨terminal, job, current, named, same⟩
  · intro job result current named active value
    have known := find?_eq_some.mpr ⟨current, named⟩
    have whole : p.value = (some (.ok result), p.value.2) := by rw [← value]
    rw [whole] at ticked
    obtain ⟨ticks, ending⟩ := runEnd_of_course known active ticked
    exact ⟨started, ticks, ticking, shown, ending, ending.cancelled_iff⟩

end Converter

end SlideConverter

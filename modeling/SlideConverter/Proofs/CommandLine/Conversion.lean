import SlideConverter.Proofs.CommandLine.Session
import SlideConverter.Proofs.CommandLine.Summary
import SlideConverter.Proofs.Conversion.Deadline

/-!
# How a conversion on the command line goes

A conversion is turned down before there is a job, or it runs a job to its end and tells what has
become of it. `Converts` lists the ways, each with all that happens on it and with what the
conversion comes to, and is exactly what a session can do.
-/

namespace SlideConverter

open Text

namespace CommandLine

open Session

/-- What a conversion has come to. -/
inductive Ending where
  /-- There has been no job. -/
  | turnedDown (why : Failing)
  /-- The job has been looked at as often as it may be, and has not ended. -/
  | unended
  /-- The run of the job has ended before the job has. -/
  | incomplete (job : Job)
  | failed (job : Job) (failure : Failure)
  | cancelled (job : Job)
  /-- The job has finished, but its slides cannot be listed. -/
  | unscanned (job : Job) (error : ConversionError)
  /-- The job has finished and its slides are known; `summary` is what is to be printed. -/
  | done (job : Job) (slides : SlideCollection) (summary : Option Tree)

/-- What a command makes of it. -/
def Ending.result (config : Config) (input : Path) : Ending → Except Failing Unit
  | .turnedDown why => .error why
  | .unended => .error .unended
  | .incomplete _ => .error .incomplete
  | .failed _ failure => .error (.unprocessable input failure)
  | .cancelled _ => .error (.cancelled input config.limits.jobTimeoutSeconds)
  | .unscanned _ error => .error (.conversion error)
  | .done _ _ summary => summary.elim (.ok ()) printing

/-- How it is told what has become of a job: `c` is the converter, and `job` the job, after a run
that says `result`. -/
inductive Tells (config : Config) (filter : LogFilter) (c : Converter) (job : Job) (a : Accepted) :
    PollResult → List SessionEvent → Ending → Prop
  | incomplete (stage : Option Stage) :
    Tells config filter c job a (.inProgress stage) [] (.incomplete job)
  | failed (failure : Failure) :
    Tells config filter c job a (.failed failure)
      ((if config.global.printSummary then spoken job.report.tree else []).map
        (.noted <| .printed ·))
      (.failed job failure)
  | cancelled : Tells config filter c job a .cancelled [] (.cancelled job)
  | unscanned {scanning : List SessionEvent} {error : ConversionError}
      (scan : (during filter (c.collectSlides a.handle)).Course scanning (.error error)) :
    Tells config filter c job a .finished scanning (.unscanned job error)
  | silent {scanning : List SessionEvent} {slides : SlideCollection}
      (scan : (during filter (c.collectSlides a.handle)).Course scanning (.ok slides))
      (off : config.global.printSummary = false) :
    Tells config filter c job a .finished scanning (.done job slides none)
  | summed {scanning : List SessionEvent} {slides : SlideCollection} (finished : Nat)
      (scan : (during filter (c.collectSlides a.handle)).Course scanning (.ok slides))
      (on : config.global.printSummary = true) :
    Tells config filter c job a .finished
      (scanning ++ .asked .wallClock finished ::
        (spoken (summary a.started finished a.workDir slides job.report)).map
          (.noted <| .printed ·))
      (.done job slides (some (summary a.started finished a.workDir slides job.report)))

/-- The ways in which a conversion can go. -/
inductive Converts (setting : Setting) (config : Config) (filter : LogFilter) (input : Path)
    (named : Option Path) : List SessionEvent → Ending → Prop
  | turnedDown {events : List SessionEvent} {why : Failing}
      (turned : (accept setting config filter input named).Course events (.error why)) :
    Converts setting config filter input named events (.turnedDown why)
  | unended {accepting running closing : List SessionEvent} {a : Accepted} {c last : Converter}
      (accepted : (accept setting config filter input named).Course accepting (.ok a))
      (ran : (during filter (a.converter.runToCompletion a.handle (pollInterval config)
        (deadline config) setting.ticks)).Course running (none, c))
      (closed : (during filter c.close).Course closing last) :
    Converts setting config filter input named (accepting ++ (running ++ closing)) .unended
  | ended {accepting running telling closing : List SessionEvent} {a : Accepted}
      {c last : Converter} {result : PollResult} {job : Job} {ending : Ending}
      (accepted : (accept setting config filter input named).Course accepting (.ok a))
      (ran : (during filter (a.converter.runToCompletion a.handle (pollInterval config)
        (deadline config) setting.ticks)).Course running (some (.ok result), c))
      (found : c.find? a.handle = some job)
      (told : Tells config filter c job a result telling ending)
      (closed : (during filter c.close).Course closing last) :
    Converts setting config filter input named (accepting ++ ((running ++ telling) ++ closing))
      ending

variable {setting : Setting} {config : Config} {filter : LogFilter} {input : Path}
  {named : Option Path} {events : List SessionEvent} {ending : Ending} {a : Accepted}
  {c : Converter} {job : Job}

/-! ## The job -/

/-- What is taken on is the current job, and it has not begun. -/
theorem accept_course (course : (accept setting config filter input named).Course events (.ok a)) :
    a.converter.config = config ∧ ∃ job, a.converter.find? a.handle = some job ∧
      job.state = .init ∧ job.source = input ∧ job.workDir = a.workDir := by
  obtain ⟨-, checked, _, -, -, choosing⟩ := Dialogue.course_bind.mp course
  cases checked with
  | error why =>
    obtain ⟨-, same⟩ := Dialogue.course_pure.mp choosing
    cases same
  | ok done =>
    obtain ⟨-, chosen, _, -, -, timing⟩ := Dialogue.course_bind.mp choosing
    cases chosen with
    | error why =>
      obtain ⟨-, same⟩ := Dialogue.course_pure.mp timing
      cases same
    | ok workDir =>
      obtain ⟨started, _, -, starting⟩ := course_inquire_bind.mp timing
      obtain ⟨_, ⟨begun, c⟩, _, -, start, closing⟩ := Dialogue.course_bind.mp starting
      cases begun with
      | error error =>
        obtain ⟨-, same⟩ := Dialogue.course_pure.mp closing
        cases same
      | ok handle =>
        obtain ⟨-, same⟩ := Dialogue.course_pure.mp closing
        cases same
        obtain ⟨inner, inner_course, rfl⟩ := during_course.mp start
        cases Converter.start_conduct inner_course with
        | registered _ _ idle prepared =>
          exact ⟨rfl, _, Converter.find?_eq_some.mpr ⟨rfl, rfl⟩, rfl, rfl, rfl⟩
        | worked other => cases other

/-- A run that ends says where the job stands then, which is at its end; it is cancelled only if
there is a time limit. -/
theorem run_course {running : List SessionEvent}
    {outcome : Except ConversionError PollResult}
    (accepted : (accept setting config filter input named).Course events (.ok a))
    (ran : (during filter (a.converter.runToCompletion a.handle (pollInterval config)
      (deadline config) setting.ticks)).Course running (some outcome, c)) :
    ∃ job, c.find? a.handle = some job ∧ outcome = .ok (.ofState job.state) ∧
      job.state.isTerminal = true ∧ (job.state = .cancelled → config.limits.jobTimeoutSeconds ≠ 0) ∧
      job.source = input ∧ job.workDir = a.workDir ∧ c.config = config := by
  obtain ⟨configured, job, known, begins, source, workDir⟩ := accept_course accepted
  obtain ⟨inner, inner_course, rfl⟩ := during_course.mp ran
  obtain ⟨started, rest, rfl, ticked⟩ := course_ask_bind.mp inner_course
  have run := Converter.run_course ticked
  have active : job.state.isTerminal = false := by
    rw [begins]
    rfl
  cases outcome with
  | error error =>
    have absent := run.error_iff.1.mp ⟨error, rfl⟩
    simp [known] at absent
  | ok result =>
    obtain ⟨terminal, job', found, rfl⟩ := run.result_eq
    rw [PollResult.isTerminal_ofState] at terminal
    obtain ⟨passed, ending⟩ := Converter.runEnd_of_course known active ticked
    refine ⟨job', found, rfl, terminal, ?_, ?_⟩
    · intro cancelled none
      have late := ending.cancelled_iff.mp (by rw [cancelled]; rfl)
      obtain ⟨t, -, limit, set, -⟩ := late
      simp [deadline, none] at set
    · obtain ⟨current, -⟩ := Converter.find?_eq_some.mp known
      obtain ⟨current', -⟩ := Converter.find?_eq_some.mp found
      cases run.works with
      | idle =>
        rw [current] at current'
        cases current'
        exact ⟨source, workDir, configured⟩
      | busy held chain =>
        rw [current] at held
        cases held
        cases current'
        exact ⟨chain.identity.source.trans source, chain.identity.workDir.trans workDir, configured⟩

/-! ## All ways -/

-- A summary is known by its lemmas alone, and is not put in order here.
attribute [local irreducible] summary

theorem presentFailed_course {report : JobReport} {failure : Failure}
    {outcome : Except Failing Unit} :
    (presentFailed config input report failure).Course events outcome ↔
      events = (if config.global.printSummary then spoken report.tree else []).map
        (.noted <| .printed ·) ∧ outcome = .error (.unprocessable input failure) := by
  have readable : printing report.tree = .ok () := by
    rw [printing, if_pos report.readBack.writable.isText]
  rw [presentFailed]
  cases config.global.printSummary with
  | false =>
    constructor
    · intro course
      exact course
    · intro told
      exact told
  | true =>
    constructor
    · intro course
      obtain ⟨saying, said, rest, rfl, printed, after⟩ := Dialogue.course_bind.mp course
      obtain ⟨rfl, rfl⟩ := printTree_course.mp printed
      rw [readable] at after
      obtain ⟨rfl, rfl⟩ := Dialogue.course_pure.mp after
      exact ⟨List.append_nil _, rfl⟩
    · rintro ⟨rfl, rfl⟩
      exact Dialogue.course_bind_of_pure (printTree_course.mpr ⟨rfl, readable.symm⟩) rfl

/-- What is told of a job is told in one of the ways listed. -/
theorem present_course (found : c.find? a.handle = some job) {result : PollResult}
    {outcome : Except Failing Unit} :
    (present config filter c a.handle input a.workDir a.started result).Course events outcome ↔
      ∃ ending, Tells config filter c job a result events ending ∧
        outcome = ending.result config input := by
  have reported : c.report a.handle = .ok job.report := by
    rw [Converter.report, Converter.inspect, found]
  rw [present, reported]
  cases result with
  | inProgress stage =>
    constructor
    · rintro ⟨rfl, rfl⟩
      exact ⟨_, .incomplete stage, rfl⟩
    · rintro ⟨_, ⟨⟩, rfl⟩
      exact ⟨rfl, rfl⟩
  | cancelled =>
    constructor
    · rintro ⟨rfl, rfl⟩
      exact ⟨_, .cancelled, rfl⟩
    · rintro ⟨_, ⟨⟩, rfl⟩
      exact ⟨rfl, rfl⟩
  | failed failure =>
    constructor
    · intro course
      obtain ⟨rfl, rfl⟩ := presentFailed_course.mp course
      exact ⟨_, .failed failure, rfl⟩
    · rintro ⟨_, ⟨⟩, rfl⟩
      exact presentFailed_course.mpr ⟨rfl, rfl⟩
  | finished =>
    constructor
    · intro course
      obtain ⟨scanning, scanned, rest, rfl, scan, after⟩ := Dialogue.course_bind.mp course
      cases scanned with
      | error error =>
        obtain ⟨rfl, rfl⟩ := Dialogue.course_pure.mp after
        rw [List.append_nil]
        exact ⟨_, .unscanned scan, rfl⟩
      | ok slides =>
        dsimp only at after
        split at after
        · rename_i on
          obtain ⟨finished, rest, rfl, telling⟩ := course_inquire_bind.mp after
          obtain ⟨rfl, rfl⟩ := printTree_course.mp telling
          exact ⟨_, .summed finished scan on, rfl⟩
        · rename_i off
          obtain ⟨rfl, rfl⟩ := Dialogue.course_pure.mp after
          rw [List.append_nil]
          exact ⟨_, .silent scan (by simpa using off), rfl⟩
    · rintro ⟨_, told, rfl⟩
      cases told with
      | unscanned scan => exact Dialogue.course_bind_of_pure scan rfl
      | silent scan off =>
        refine Dialogue.course_bind_of_pure scan ?_
        dsimp only
        rw [if_neg (by simp [off])]
        rfl
      | summed finished scan on =>
        refine Dialogue.course_bind.mpr ⟨_, _, _, rfl, scan, ?_⟩
        dsimp only
        rw [if_pos on]
        exact course_inquire_bind.mpr ⟨finished, _, rfl, printTree_course.mpr ⟨rfl, rfl⟩⟩

/-- A conversion goes in one of the ways listed, and each of them is possible. -/
theorem convert_course {outcome : Except Failing Unit} :
    (convert setting config filter input named).Course events outcome ↔
      ∃ ending, Converts setting config filter input named events ending ∧
        outcome = ending.result config input := by
  constructor
  · intro course
    obtain ⟨accepting, taken, rest, rfl, accepted, after⟩ := Dialogue.course_bind.mp course
    cases taken with
    | error why =>
      obtain ⟨rfl, rfl⟩ := Dialogue.course_pure.mp after
      rw [List.append_nil]
      exact ⟨.turnedDown why, .turnedDown accepted, rfl⟩
    | ok a =>
      obtain ⟨working, ⟨told, c⟩, rest, rfl, worked, closing⟩ := Dialogue.course_bind.mp after
      obtain ⟨closing, last, rest, rfl, closed, done⟩ := Dialogue.course_bind.mp closing
      obtain ⟨rfl, rfl⟩ := Dialogue.course_pure.mp done
      obtain ⟨running, ⟨outcome, c'⟩, rest, rfl, ran, telling⟩ := Dialogue.course_bind.mp worked
      rw [List.append_nil]
      cases outcome with
      | none =>
        obtain ⟨rfl, same⟩ := Dialogue.course_pure.mp telling
        cases same
        rw [List.append_nil]
        exact ⟨.unended, .unended accepted ran closed, rfl⟩
      | some outcome =>
        obtain ⟨job, found, rfl, -⟩ := run_course accepted ran
        obtain ⟨result, told_course, same⟩ := Dialogue.course_reshape telling fun _ => rfl
        cases same
        obtain ⟨ending, tells, rfl⟩ := (present_course found).mp told_course
        exact ⟨ending, .ended accepted ran found tells closed, rfl⟩
  · rintro ⟨ending, converts, rfl⟩
    cases converts with
    | turnedDown turned => exact Dialogue.course_bind_of_pure turned rfl
    | @unended accepting running closing a c last accepted ran closed =>
      have worked : (runJob setting.ticks config filter a.converter a.handle input a.workDir
          a.started).Course running (.error .unended, c) := Dialogue.course_bind_of_pure ran rfl
      exact Dialogue.course_bind.mpr ⟨_, _, _, rfl, accepted, Dialogue.course_bind.mpr
        ⟨_, _, _, rfl, worked, Dialogue.course_bind_of_pure closed rfl⟩⟩
    | @ended accepting running telling closing a c last result job _ accepted ran found told
        closed =>
      have presented : (present config filter c a.handle input a.workDir a.started result).Course
          telling (ending.result config input) := (present_course found).mpr ⟨ending, told, rfl⟩
      have worked : (runJob setting.ticks config filter a.converter a.handle input a.workDir
          a.started).Course (running ++ telling) (ending.result config input, c) :=
        Dialogue.course_bind.mpr
          ⟨_, _, _, rfl, ran, Dialogue.course_bind_of_pure presented rfl⟩
      exact Dialogue.course_bind.mpr ⟨_, _, _, rfl, accepted, Dialogue.course_bind.mpr
        ⟨_, _, _, rfl, worked, Dialogue.course_bind_of_pure closed rfl⟩⟩

end CommandLine

end SlideConverter

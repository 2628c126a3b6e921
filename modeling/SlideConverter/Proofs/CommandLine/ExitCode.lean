import SlideConverter.Proofs.CommandLine.Conversion
import SlideConverter.Proofs.Path
import SlideConverter.Proofs.Slide
import SlideConverter.Rehearsal.Obliging

/-!
# Exit codes and what is printed

The exit code of a conversion tells whether there are slides, and what is printed is the summary
of them, or the report of the job that has failed, or nothing. A session ends with an exit code of
its own except where it would have to print a path that is no text.
-/

namespace SlideConverter.CommandLine

open Session Text

/-! ## Before and after a command -/

/-- The configuration is read and the log is open. -/
inductive Ready (a : Arguments) : List SessionEvent → Config → Prop
  | intro {loading opening : List SessionEvent} {config : Config}
      (loaded : (loadConfig a.config).Course loading (.ok config))
      (opened : (openLog config).Course opening (.ok ())) : Ready a (loading ++ opening) config

/-- The configuration cannot be read, or the log not be opened. -/
inductive Unready (a : Arguments) : List SessionEvent → Prop
  | unconfigured {loading : List SessionEvent} {fault : ConfigFault}
      (refused : (loadConfig a.config).Course loading (.error fault)) : Unready a loading
  | unlogged {loading opening : List SessionEvent} {config : Config} {cause : ErrorChain}
      (loaded : (loadConfig a.config).Course loading (.ok config))
      (refused : (openLog config).Course opening (.error cause)) : Unready a (loading ++ opening)

/-- The exit code that stands for what a command has come to. -/
def exitCode : Except Failing Unit → UInt8
  | .ok _ => 0
  | .error e => e.exitCode

variable {setting : Setting} {a : Arguments} {config : Config} {filter : LogFilter}
  {input : Path} {named : Option Path} {events : List SessionEvent} {ending : Ending}

theorem silent_loadConfig (named : Option Path) : Silent (loadConfig named) := by
  refine .bind ?_ fun found => ?_
  · cases named with
    | some path => exact .pure _
    | none =>
      refine .bind (.inquire _) fun there => ?_
      cases there <;> exact .pure _
  · cases found with
    | none => exact .pure _
    | some path => exact .bind (.inquire _) fun contents => .pure _

theorem silent_openLog (config : Config) : Silent (openLog config) := by
  rw [openLog]
  cases logPath config with
  | none => exact .pure _
  | some path =>
    refine .bind (.inquire _) fun made => ?_
    cases made with
    | error cause => exact .pure _
    | ok done => exact .inquire _

theorem Ready.printed_eq_nil (ready : Ready a events config) : printed events = [] := by
  obtain ⟨loaded, opened⟩ := ready
  rw [printed_append, silent_loadConfig _ _ _ loaded, silent_openLog _ _ _ opened,
    List.append_nil]

theorem Unready.printed_eq_nil (unready : Unready a events) : printed events = [] := by
  cases unready with
  | unconfigured refused => exact silent_loadConfig _ _ _ refused
  | unlogged loaded refused =>
    rw [printed_append, silent_loadConfig _ _ _ loaded, silent_openLog _ _ _ refused,
      List.append_nil]

theorem silent_conclude (filter : LogFilter) (outcome : Except Failing Unit) :
    Silent (conclude filter outcome) := by
  cases outcome with
  | ok done => exact .pure _
  | error e =>
    refine .bind ?_ fun _ => .pure _
    rw [logFailure]
    cases e.message? with
    | some message => exact .log _ _
    | none => exact .pure _

theorem conclude_course {outcome : Except Failing Unit} {code : UInt8}
    (course : (conclude filter outcome).Course events code) : code = exitCode outcome := by
  cases outcome with
  | ok done => exact course.2
  | error e =>
    obtain ⟨_, _, _, -, -, _, rfl⟩ := Dialogue.course_bind.mp course
    rfl

/-- Arguments are carried out up to their command and then come to an end, or not so far. -/
theorem runArguments_course {code : UInt8} : (runArguments setting a).Course events code ↔
    Unready a events ∧ code = 1 ∨
      ∃ preparing config performing outcome concluding,
        events = preparing ++ (performing ++ concluding) ∧ Ready a preparing config ∧
        (perform setting config (setting.filter a config) a.command).Course performing outcome ∧
        (conclude (setting.filter a config) outcome).Course concluding code := by
  constructor
  · intro course
    obtain ⟨loading, loaded, rest, rfl, load, after⟩ := Dialogue.course_bind.mp course
    cases loaded with
    | error fault =>
      obtain ⟨rfl, rfl⟩ := Dialogue.course_pure.mp after
      rw [List.append_nil]
      exact .inl ⟨.unconfigured load, rfl⟩
    | ok config =>
      obtain ⟨opening, opened, rest, rfl, openCourse, after⟩ := Dialogue.course_bind.mp after
      cases opened with
      | error cause =>
        obtain ⟨rfl, rfl⟩ := Dialogue.course_pure.mp after
        rw [List.append_nil]
        exact .inl ⟨.unlogged load openCourse, rfl⟩
      | ok done =>
        obtain ⟨performing, outcome, concluding, rfl, performed, concluded⟩ :=
          Dialogue.course_bind.mp after
        rw [← List.append_assoc]
        exact .inr ⟨_, config, performing, outcome, concluding, rfl, ⟨load, openCourse⟩, performed,
          concluded⟩
  · rintro (⟨unready, rfl⟩ | ⟨_, config, performing, outcome, concluding, rfl, ⟨load, opened⟩,
      performed, concluded⟩)
    · cases unready with
      | unconfigured refused => exact Dialogue.course_bind_of_pure refused rfl
      | unlogged loaded refused =>
        exact Dialogue.course_bind.mpr
          ⟨_, _, _, rfl, loaded, Dialogue.course_bind_of_pure refused rfl⟩
    · rw [List.append_assoc]
      exact Dialogue.course_bind.mpr ⟨_, _, _, rfl, load, Dialogue.course_bind.mpr
        ⟨_, _, _, rfl, opened, Dialogue.course_bind.mpr ⟨_, _, _, rfl, performed, concluded⟩⟩⟩

/-! ## Conversions -/

/-- How a conversion goes, from its arguments on: the command is not reached, or with a
configuration the conversion comes to an ending. -/
inductive Goes (setting : Setting) (a : Arguments) (input : Path) (named : Option Path) :
    List SessionEvent → Option (Config × Ending) → Prop
  | unready {events : List SessionEvent} (unready : Unready a events) :
    Goes setting a input named events none
  | converted {preparing converting concluding : List SessionEvent} {config : Config}
      {ending : Ending} {code : UInt8} (ready : Ready a preparing config)
      (converts : Converts setting config (setting.filter a config) input named converting ending)
      (concludes : (conclude (setting.filter a config) (ending.result config input)).Course
        concluding code) :
    Goes setting a input named (preparing ++ (converting ++ concluding)) (some (config, ending))

/-! ## What is printed -/

theorem silent_checkInput (config : Config) (input : Path) : Silent (checkInput config input) := by
  rw [checkInput]
  split
  · exact .pure _
  · refine .bind (.inquire _) fun there => ?_
    cases there <;> exact .pure _

theorem silent_chooseWorkDir (config : Config) (input : Path) (named : Option Path) :
    Silent (chooseWorkDir config input named) := by
  cases named with
  | some path => exact .pure _
  | none =>
    refine .bind (.inquire _) fun made => ?_
    cases made with
    | error cause => exact .pure _
    | ok done =>
      refine .bind (.inquire _) fun found => ?_
      cases found with
      | error cause => exact .pure _
      | ok source => exact .bind (.inquire _) fun now => .pure _

theorem silent_accept (setting : Setting) (config : Config) (filter : LogFilter) (input : Path)
    (named : Option Path) : Silent (accept setting config filter input named) := by
  refine .bind (silent_checkInput config input) fun checked => ?_
  cases checked with
  | error why => exact .pure _
  | ok done =>
    refine .bind (silent_chooseWorkDir config input named) fun chosen => ?_
    cases chosen with
    | error why => exact .pure _
    | ok workDir =>
      refine .bind (.inquire _) fun started => .bind (.during _ _) fun begun => ?_
      obtain ⟨begun, c⟩ := begun
      cases begun <;> exact .pure _

/-- All that is printed of an ending. -/
def Ending.texts (config : Config) : Ending → List String
  | .failed job _ => if config.global.printSummary then spoken job.report.tree else []
  | .done _ _ summary => summary.elim [] spoken
  | _ => []

theorem Tells.printed_eq {c : Converter} {job : Job} {a : Accepted} {result : PollResult}
    (told : Tells config filter c job a result events ending) :
    printed events = ending.texts config := by
  cases told with
  | incomplete | cancelled => rfl
  | failed failure => exact printed_spoken _
  | unscanned scan => exact Silent.during _ _ _ _ scan
  | silent scan off => exact Silent.during _ _ _ _ scan
  | summed finished scan on =>
    rw [printed_append, printed_asked, printed_spoken, Silent.during _ _ _ _ scan, List.nil_append]
    rfl

theorem Converts.printed_eq (converts : Converts setting config filter input named events ending) :
    printed events = ending.texts config := by
  cases converts with
  | turnedDown turned => exact silent_accept _ _ _ _ _ _ _ turned
  | unended accepted ran closed =>
    rw [printed_append, printed_append, silent_accept _ _ _ _ _ _ _ accepted,
      Silent.during _ _ _ _ ran, Silent.during _ _ _ _ closed]
    rfl
  | ended accepted ran found told closed =>
    rw [printed_append, printed_append, printed_append, silent_accept _ _ _ _ _ _ _ accepted,
      Silent.during _ _ _ _ ran, Silent.during _ _ _ _ closed, told.printed_eq, List.nil_append,
      List.nil_append, List.append_nil]

theorem Goes.printed_eq {outcome : Option (Config × Ending)}
    (goes : Goes setting a input named events outcome) :
    printed events = outcome.elim [] fun (config, ending) => ending.texts config := by
  cases goes with
  | unready unready => exact unready.printed_eq_nil
  | converted ready converts concludes =>
    rw [printed_append, printed_append, ready.printed_eq_nil, converts.printed_eq,
      silent_conclude _ _ _ _ concludes, List.append_nil, List.nil_append]
    rfl

/-! ## What endings say of the job -/

/-- The slides are those that are found in the directory of the job. -/
def Found (config : Config) (events : List SessionEvent) (job : Job) (slides : SlideCollection) :
    Prop :=
  ∃ entries, .asked (.conversion (.listDir job.workDir)) (.ok entries) ∈ events ∧
    slides = .ofEntries config.pipeline entries

/-- What an ending says is so: of the state of the job, of its slides, and of the summary. -/
def Ending.Sound (config : Config) (events : List SessionEvent) : Ending → Prop
  | .turnedDown _ | .unended => True
  | .incomplete _ => False
  | .failed job failure => job.state = .failed failure
  | .cancelled job => job.state = .cancelled ∧ config.limits.jobTimeoutSeconds ≠ 0
  | .unscanned job _ => job.state = .finished
  | .done job slides summary => job.state = .finished ∧ Found config events job slides ∧
      if config.global.printSummary then ∃ started finished,
        summary = some (CommandLine.summary started finished job.workDir slides job.report)
      else summary = none

theorem ofState_eq_finished {state : JobState} :
    PollResult.finished = .ofState state ↔ state = .finished := by
  cases state <;> simp [PollResult.ofState]

theorem ofState_eq_cancelled {state : JobState} :
    PollResult.cancelled = .ofState state ↔ state = .cancelled := by
  cases state <;> simp [PollResult.ofState]

theorem ofState_eq_failed {state : JobState} {failure : Failure} :
    PollResult.failed failure = .ofState state ↔ state = .failed failure := by
  cases state <;> simp [PollResult.ofState, eq_comm]

theorem scan_course {c : Converter} {job : Job} {handle : JobHandle} {slides : SlideCollection}
    (configured : c.config = config) (known : c.find? handle = some job)
    (scan : (during filter (c.collectSlides handle)).Course events (.ok slides)) :
    Found config events job slides := by
  obtain ⟨inner, inner_course, rfl⟩ := during_course.mp scan
  cases Converter.collect_course inner_course with
  | collected known' finished matched entries =>
    rw [known] at known'
    cases known'
    exact ⟨entries, List.mem_singleton_self _, by rw [configured]⟩

theorem Found.mono {more : List SessionEvent} {job : Job} {slides : SlideCollection}
    (found : Found config events job slides) (within : ∀ e ∈ events, e ∈ more) :
    Found config more job slides := by
  obtain ⟨entries, listed, same⟩ := found
  exact ⟨entries, within _ listed, same⟩

theorem Converts.sound (converts : Converts setting config filter input named events ending) :
    ending.Sound config events := by
  cases converts with
  | turnedDown | unended => trivial
  | @ended accepting running telling closing a c last result job _ accepted ran found told closed =>
    obtain ⟨job, found', same, terminal, limited, -, workDir, configured⟩ := run_course accepted ran
    rw [found] at found'
    cases found'
    have same := Except.ok.inj same
    have heard : ∀ e ∈ telling, e ∈ accepting ++ ((running ++ telling) ++ closing) := by
      intro e there
      simp [there]
    cases told with
    | incomplete stage =>
      have going := congrArg PollResult.isTerminal same
      rw [PollResult.isTerminal_ofState, terminal] at going
      cases going
    | failed failure => exact ofState_eq_failed.mp same
    | cancelled =>
      have cancelled := ofState_eq_cancelled.mp same
      exact ⟨cancelled, limited cancelled⟩
    | unscanned scan => exact ofState_eq_finished.mp same
    | silent scan off =>
      refine ⟨ofState_eq_finished.mp same, (scan_course configured found scan).mono heard, ?_⟩
      rw [if_neg (by simp [off])]
    | summed finished scan on =>
      have listed := (scan_course configured found scan).mono fun e there =>
        heard e (List.mem_append_left _ there)
      refine ⟨ofState_eq_finished.mp same, listed, ?_⟩
      rw [if_pos on, workDir]
      exact ⟨_, finished, rfl⟩

/-! ## Paths that are text -/

/-- Whatever is listed of a directory is a name below it. -/
def ListsChildren {σ : Type} (r : Respondent Inquiry Inquiry.Answer σ) : Prop :=
  ∀ dir s entries, (r.answer (.conversion (.listDir dir)) s).1 = .ok entries →
    ∀ p ∈ entries, ∃ name, Path.IsName name ∧ p = dir.join ⟨name⟩

/-- Either it has `P`, or it is refused for a reason that can be told. -/
def Tried {α : Type} (P : α → Prop) : Except Failing α → Prop
  | .ok a => P a
  | .error why => why.exitCode = 1

/-- The directory that is chosen is text if the one that is named is. -/
theorem comes_chooseWorkDir (config : Config) (input : Path) (named : Option Path) :
    Comes (chooseWorkDir config input named)
      (Tried fun workDir => (∀ path ∈ named, path.IsText) → workDir.IsText) := by
  cases named with
  | some path => exact .pure fun text => text path rfl
  | none =>
    refine .inquiring fun made => ?_
    cases made with
    | error cause => exact .pure rfl
    | ok done =>
      refine .inquiring fun found => ?_
      cases found with
      | error cause => exact .pure rfl
      | ok source =>
        exact .inquiring fun now =>
          .pure fun _ => Path.isText_join (Path.isText_ofString _) (Utf8.isText_encode _)

theorem comes_accept (setting : Setting) (config : Config) (filter : LogFilter) (input : Path)
    (named : Option Path) :
    Comes (accept setting config filter input named)
      (Tried fun a => (∀ path ∈ named, path.IsText) → a.workDir.IsText) := by
  have checks : Comes (checkInput config input) (Tried fun _ => True) := by
    rw [checkInput]
    split
    · exact .pure rfl
    · refine .inquiring fun there => ?_
      cases there with
      | true => exact .pure trivial
      | false => exact .pure rfl
  refine .bind checks fun checked fits => ?_
  cases checked with
  | error why => exact .pure fits
  | ok done =>
    refine .bind (comes_chooseWorkDir config input named) fun chosen fits => ?_
    cases chosen with
    | error why => exact .pure fits
    | ok workDir =>
      refine .inquiring fun started => .bind (P := fun _ => True) (fun _ _ _ => trivial) ?_
      rintro ⟨begun, c⟩ -
      cases begun with
      | error error => exact .pure rfl
      | ok handle => exact .pure fits

/-- Slides are text if the directory of the job is. -/
theorem isText_of_found {σ : Type} {r : Respondent Inquiry Inquiry.Answer σ} {s s' : σ}
    {job : Job} {slides : SlideCollection} (lists : ListsChildren r) (text : job.workDir.IsText)
    (answers : r.Answers s events s') (found : Found config events job slides) :
    ∀ slide ∈ slides.slides, slide.imagePath.IsText := by
  obtain ⟨entries, listed, rfl⟩ := found
  intro slide there
  obtain ⟨entry, name, named, readable⟩ := SlideCollection.mem_ofEntries there
  obtain ⟨between, answered⟩ := Respondent.answered answers listed
  obtain ⟨name', proper, path⟩ := lists _ _ _ answered _ entry
  have same : name' = name := by
    have last := congrArg Path.fileName path
    rw [named, Path.fileName, Path.components_join _ proper, List.getLast?_concat] at last
    exact (Option.some.inj last).symm
  rw [path, same]
  exact Path.isText_join text readable

/-! ## Conversions and their exit codes -/

/-- The text of `t` is printed and nothing else, and it is read back as `t`. -/
def PrintsOnly (events : List SessionEvent) (t : Tree) : Prop :=
  ∃ text, printed events = [text ++ "\n"] ∧ Json.printPretty? t = some text ∧
    Json.parse? (text ++ "\n") = some t

/-- What is printed when a conversion comes to an ending: the summary of a job that has finished,
if its slides are known, or the report of one that has failed. -/
def Ending.Printed (config : Config) (events : List SessionEvent) : Ending → Prop
  | .done job slides _ =>
    if config.global.printSummary then job.report.state = "finished" ∧ ∃ started finished t,
      t = summary started finished job.workDir slides job.report ∧
        IsSummary started finished job.workDir slides job.report t ∧ PrintsOnly events t
    else printed events = []
  | .failed job failure =>
    if config.global.printSummary then job.report.state = "failed" ∧
      job.report.failure = some failure.describe ∧ PrintsOnly events job.report.tree
    else printed events = []
  | _ => printed events = []

/-- The exit code for each ending; 101 stands for a summary with a path that is no text. -/
def Ending.exitCode : Ending → UInt8
  | .done _ _ summary => if summary.all Tree.isText then 0 else 101
  | _ => 1

theorem printsOnly_of_writable {t : Tree} (writable : t.Writable)
    (same : printed events = spoken t) : PrintsOnly events t := by
  obtain ⟨text, has, parsed⟩ := Json.parse?_printPretty? writable
  refine ⟨text, ?_, has, parsed⟩
  rw [same, spoken, has]
  rfl

/-- Only a summary can fail to be printed. -/
theorem Converts.exitCode_eq (converts : Converts setting config filter input named events ending) :
    exitCode (ending.result config input) = ending.exitCode := by
  cases ending with
  | turnedDown why =>
    cases converts with
    | turnedDown turned => exact comes_accept _ _ _ _ _ _ _ turned
    | ended _ _ _ told _ => cases told
  | done job slides summary =>
    cases summary with
    | none => rfl
    | some t =>
      rw [Ending.result, Option.elim_some, printing, Ending.exitCode, Option.all_some]
      cases t.isText <;> rfl
  | unended | incomplete | failed | cancelled | unscanned => rfl

theorem goes_course {code : UInt8} (asked : a.command = .convert input named) :
    (runArguments setting a).Course events code ↔
      ∃ outcome, Goes setting a input named events outcome ∧
        code = outcome.elim 1 (·.2.exitCode) := by
  rw [runArguments_course, asked]
  constructor
  · rintro (⟨unready, rfl⟩ | ⟨_, config, _, _, _, rfl, ready, performed, concluded⟩)
    · exact ⟨none, .unready unready, rfl⟩
    · obtain ⟨ending, converts, rfl⟩ := convert_course.mp performed
      exact ⟨some (config, ending), .converted ready converts concluded,
        (conclude_course concluded).trans converts.exitCode_eq⟩
  · rintro ⟨outcome, goes, rfl⟩
    cases goes with
    | unready unready => exact .inl ⟨unready, rfl⟩
    | converted ready converts concludes =>
      obtain rfl := conclude_course concludes
      rw [converts.exitCode_eq] at concludes
      exact .inr ⟨_, _, _, _, _, rfl, ready, convert_course.mpr ⟨_, converts, rfl⟩, concludes⟩

theorem Ending.Sound.mono {more : List SessionEvent} (sound : ending.Sound config events)
    (within : ∀ e ∈ events, e ∈ more) : ending.Sound config more := by
  cases ending with
  | done job slides summary => exact ⟨sound.1, sound.2.1.mono within, sound.2.2⟩
  | turnedDown | unended | incomplete | failed | cancelled | unscanned => exact sound

theorem Goes.sound (goes : Goes setting a input named events (some (config, ending))) :
    ending.Sound config events := by
  cases goes with
  | converted ready converts concludes =>
    refine converts.sound.mono fun e there => ?_
    simp [there]

theorem Goes.isText_workDir {job : Job} {slides : SlideCollection} {summary : Option Tree}
    (text : ∀ path ∈ named, path.IsText)
    (goes : Goes setting a input named events (some (config, .done job slides summary))) :
    job.workDir.IsText := by
  cases goes with
  | converted ready converts concludes =>
    cases converts with
    | @ended _ _ _ _ accepted' _ _ _ _ _ accepted ran found told closed =>
      have chosen : (∀ path ∈ named, path.IsText) → accepted'.workDir.IsText :=
        comes_accept _ _ _ _ _ _ _ accepted
      obtain ⟨job', found', -, -, -, -, workDir, -⟩ := run_course accepted ran
      rw [found] at found'
      cases found'
      cases told with
      | silent | summed =>
        rw [workDir]
        exact chosen text

/-- Where all paths are text, everything can be printed, and the exit code says if there are
slides. -/
theorem Goes.printed_sound {σ : Type} {r : Respondent Inquiry Inquiry.Answer σ} {s s' : σ}
    (lists : ListsChildren r) (text : ∀ path ∈ named, path.IsText)
    (answers : r.Answers s events s')
    (goes : Goes setting a input named events (some (config, ending))) :
    ending.Printed config events ∧ (ending.exitCode = 0 ∨ ending.exitCode = 1) ∧
      (ending.exitCode = 0 ↔ ∃ job slides summary, ending = .done job slides summary) := by
  have sound := goes.sound
  have said : printed events = ending.texts config := goes.printed_eq
  cases ending with
  | done job slides summary =>
    obtain ⟨state, found, summarized⟩ := sound
    have zero : (Ending.done job slides summary).exitCode = 0 ∧
        (Ending.done job slides summary).Printed config events := by
      by_cases on : config.global.printSummary = true
      · rw [if_pos on] at summarized
        obtain ⟨started, finished, rfl⟩ := summarized
        have whole : (summary started finished job.workDir slides job.report).Writable :=
          writable_summary (goes.isText_workDir text)
            (isText_of_found lists (goes.isText_workDir text) answers found)
        refine ⟨by rw [Ending.exitCode, Option.all_some, whole.isText]; rfl, ?_⟩
        have reported : job.report.state = "finished" := by rw [Job.report, state]; rfl
        rw [Ending.Printed, if_pos on]
        exact ⟨reported, started, finished, _, rfl, isSummary_summary _ _ _ _ _,
          printsOnly_of_writable whole said⟩
      · rw [if_neg on] at summarized
        subst summarized
        refine ⟨rfl, ?_⟩
        rw [Ending.Printed, if_neg on]
        exact said
    exact ⟨zero.2, .inl zero.1, fun _ => ⟨job, slides, summary, rfl⟩, fun _ => zero.1⟩
  | failed job failure =>
    have state : job.state = .failed failure := sound
    refine ⟨?_, .inr rfl, by simp [Ending.exitCode]⟩
    rw [Ending.Printed]
    rw [Ending.texts] at said
    by_cases on : config.global.printSummary = true
    · rw [if_pos on] at said
      rw [if_pos on]
      have reported : job.report.state = "failed" := by rw [Job.report, state]; rfl
      have told : job.report.failure = some failure.describe := by rw [Job.report, state]
      exact ⟨reported, told, printsOnly_of_writable job.report.readBack.writable said⟩
    · rw [if_neg on] at said
      rw [if_neg on]
      exact said
  | incomplete => exact sound.elim
  | turnedDown | unended | cancelled | unscanned =>
    exact ⟨said, .inr rfl, by simp [Ending.exitCode]⟩

/-- A conversion has exit code 0 if it is carried through to the slides of a finished job, and 1
however else it goes. It prints nothing but the summary with these slides, or the report of a job
that has failed. A run never ends before its job does, and is cut short only by a time limit. -/
theorem conversion_exit_code_and_output {σ : Type}
    (r : Respondent Inquiry Inquiry.Answer σ) (lists : ListsChildren r) (setting : Setting)
    (a : Arguments) (input : Path) (named : Option Path)
    (asked : a.command = .convert input named) (text : ∀ path ∈ named, path.IsText) (s : σ) :
    let p := (runArguments setting a).perform r s
    let goes := Goes setting a input named p.events
    (∃ outcome, goes outcome) ∧ (p.value = 0 ∨ p.value = 1) ∧
      (p.value = 0 ↔ ∃ config job slides summary, goes (some (config, .done job slides summary))) ∧
      (goes none → printed p.events = []) ∧
      ∀ config ending, goes (some (config, ending)) →
        ending.Printed config p.events ∧ ending.Sound config p.events := by
  intro p goes
  have course := (runArguments setting a).perform_course r s
  have answers := Respondent.answers_perform r (runArguments setting a) s
  have value : ∀ outcome, goes outcome → p.value = outcome.elim 1 (·.2.exitCode) :=
    fun outcome gone => Dialogue.course_unique course ((goes_course asked).mpr ⟨outcome, gone, rfl⟩)
  obtain ⟨outcome, gone, -⟩ := (goes_course asked).mp course
  refine ⟨⟨outcome, gone⟩, ?_, ?_, ?_, ?_⟩
  · rw [value outcome gone]
    cases outcome with
    | none => exact .inr rfl
    | some e => exact (gone.printed_sound lists text answers).2.1
  · constructor
    · intro zero
      rw [value outcome gone] at zero
      cases outcome with
      | none => cases zero
      | some e =>
        obtain ⟨config, ending⟩ := e
        obtain ⟨job, slides, summary, rfl⟩ :=
          (gone.printed_sound lists text answers).2.2.mp zero
        exact ⟨config, job, slides, summary, gone⟩
    · rintro ⟨config, job, slides, summary, done⟩
      rw [value _ done]
      exact (done.printed_sound lists text answers).2.2.mpr ⟨job, slides, summary, rfl⟩
  · intro unready
    exact unready.printed_eq
  · intro config ending done
    exact ⟨(done.printed_sound lists text answers).1, done.sound⟩

/-- A place where everything is there, with `contents` in every file and the same names in every
directory. The tools end at once with `code`. -/
def rehearsedDesk (contents : String) (code : Int32) (names : List Bytes) :
    Respondent Inquiry Inquiry.Answer Unit where
  answer
    | .conversion (.pathExists _), s => (true, s)
    | .conversion (.tryWait _), s => (.ok (some { code }), s)
    | .conversion q, s => (Rehearsal.obliging names ⟨0⟩).answer q s
    | .readFile _, s => (some (Utf8.encode contents), s)
    | .isFile _, s => (true, s)
    | .createFile _, s => (.ok (), s)
    | .canonicalize path, s => (.ok path, s)
    | .probe _ _, s => (.error .missing, s)
    | .wallClock, s => (0, s)

theorem listsChildren_rehearsedDesk (contents : String) (code : Int32) {names : List Bytes}
    (proper : ∀ name ∈ names, Path.IsName name) :
    ListsChildren (rehearsedDesk contents code names) := by
  intro dir s entries answered p there
  have same : names.map (dir.join ⟨·⟩) = entries := Except.ok.inj answered
  rw [← same] at there
  obtain ⟨name, listed, rfl⟩ := List.mem_map.mp there
  exact ⟨name, proper name listed, rfl⟩

/-- A conversion whose first tool fails, which prints its report; one that is carried through and
prints its summary; and one under a configuration without summaries, which prints nothing. -/
theorem rehearsed_conversion_output :
    let a : Arguments :=
      { command := .convert (.ofString "talk.odp") (some (.ofString "work")) }
    let setting : Setting := { ticks := 9 }
    let names := ["talk.pdf", "slide-0.jpg"].map Utf8.encode
    let failing := rehearsedDesk "" 1 names
    let summing := rehearsedDesk "" 0 names
    let silent := rehearsedDesk "[global]\nprint_summary = false\n" 0 names
    let p := (runArguments setting a).perform failing ()
    let q := (runArguments setting a).perform summing ()
    let w := (runArguments setting a).perform silent ()
    let goes := Goes setting a (.ofString "talk.odp") (some (.ofString "work"))
    (ListsChildren failing ∧ ListsChildren summing ∧ ListsChildren silent ∧
      ∀ path ∈ some (Path.ofString "work"), path.IsText) ∧
    (p.value = 1 ∧ (printed p.events).length = 1 ∧
      ∃ outcome, goes p.events outcome ∧ ∀ config ending, outcome = some (config, ending) →
        ending.Printed config p.events ∧ ending.Sound config p.events) ∧
    (q.value = 0 ∧ ∃ config job slides summary,
      goes q.events (some (config, .done job slides summary)) ∧ Found config q.events job slides ∧
        job.report.state = "finished" ∧ ∃ started finished t,
          IsSummary started finished job.workDir slides job.report t ∧ PrintsOnly q.events t) ∧
    w.value = 0 ∧ printed w.events = [] ∧
      ∃ config job slides summary, goes w.events (some (config, .done job slides summary)) := by
  intro a setting names failing summing silent p q w goes
  have proper : ∀ name ∈ names, Path.slash ∉ name ∧
      Path.innerComponent name = some (.name name) := by decide +kernel
  have text : ∀ path ∈ some (Path.ofString "work"), path.IsText := by
    rintro path ⟨⟩
    exact Path.isText_ofString "work"
  have lists := listsChildren_rehearsedDesk "" 1 proper
  have lists₁ := listsChildren_rehearsedDesk "" 0 proper
  have lists₂ := listsChildren_rehearsedDesk "[global]\nprint_summary = false\n" 0 proper
  refine ⟨⟨lists, lists₁, lists₂, text⟩, ?failing, ?summing, ?silent⟩
  case failing =>
    obtain ⟨⟨outcome, gone⟩, -, -, -, sound⟩ :=
      conversion_exit_code_and_output failing lists setting a _ _ rfl text ()
    refine ⟨by decide +kernel, by decide +kernel, outcome, gone, ?_⟩
    rintro config ending rfl
    exact sound config ending gone
  case summing =>
    obtain ⟨-, -, done, -, sound⟩ :=
      conversion_exit_code_and_output summing lists₁ setting a _ _ rfl text ()
    have code : q.value = 0 := by decide +kernel
    have one : (printed q.events).length = 1 := by decide +kernel
    obtain ⟨config, job, slides, summary, gone⟩ := done.mp code
    obtain ⟨said, -, found, -⟩ := sound config _ gone
    rw [Ending.Printed] at said
    split at said
    · obtain ⟨state, started, finished, t, -, fields, prints⟩ := said
      exact ⟨code, config, job, slides, summary, gone, found, state, started, finished, t, fields,
        prints⟩
    · rw [said] at one
      cases one
  case silent =>
    obtain ⟨-, -, done, -, -⟩ :=
      conversion_exit_code_and_output silent lists₂ setting a _ _ rfl text ()
    have code : w.value = 0 := by decide +kernel
    exact ⟨code, by decide +kernel, done.mp code⟩

end SlideConverter.CommandLine

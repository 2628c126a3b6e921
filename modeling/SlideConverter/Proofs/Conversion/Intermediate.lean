import SlideConverter.Proofs.Conversion.ToolOrder
import SlideConverter.Proofs.Tool.Invocation

/-!
# From the source to the page-description file

The paths that a job asks the disk about are the ones that it has its tools started for: the
directory that is listed is the one that they write to, and the file that is removed is the one
that the raster tool has been given. What the tools are told of these paths is another matter.
-/

namespace SlideConverter

@[simp] def removal? : ActEvent → Option Path
  | .asked (.removeFile path) _ => some path
  | _ => none

@[simp] def listing? : ActEvent → Option Path
  | .asked (.listDir path) _ => some path
  | _ => none

/-- The files that are to be removed, in that order. -/
def removals (events : List ActEvent) : List Path := events.filterMap removal?

/-- The directories that are to be listed, in that order. -/
def listings (events : List ActEvent) : List Path := events.filterMap listing?

/-- The raster tool has been started for `path`. -/
def RasterStarted (config : Config) (workDir path : Path) (events : List ActEvent) : Prop :=
  ∃ process, (.raster config path workDir, .ok process) ∈ launches events

/-- Only what the raster tool has been started for is removed, and only where the tools write
anything is listed. -/
structure Consistent (config : Config) (workDir : Path) (events : List ActEvent) : Prop where
  removed : ∀ path ∈ removals events, RasterStarted config workDir path events
  listed : ∀ path ∈ listings events, path = workDir

variable {config : Config} {workDir path : Path} {first second past events : List ActEvent}

@[simp] theorem removals_append (first second : List ActEvent) :
    removals (first ++ second) = removals first ++ removals second :=
  List.filterMap_append

@[simp] theorem listings_append (first second : List ActEvent) :
    listings (first ++ second) = listings first ++ listings second :=
  List.filterMap_append

theorem RasterStarted.append (started : RasterStarted config workDir path first) :
    RasterStarted config workDir path (first ++ second) := by
  obtain ⟨process, there⟩ := started
  exact ⟨process, by simp [there]⟩

theorem Consistent.append (consistent : Consistent config workDir past)
    (removed : ∀ path ∈ removals events, RasterStarted config workDir path (past ++ events))
    (listed : ∀ path ∈ listings events, path = workDir) :
    Consistent config workDir (past ++ events) := by
  refine ⟨?_, ?_⟩
  · rw [removals_append]
    exact List.forall_mem_append.mpr
      ⟨fun path there => (consistent.removed path there).append, removed⟩
  · rw [listings_append]
    exact List.forall_mem_append.mpr ⟨consistent.listed, listed⟩

/-- Events in which no file is removed and nothing is listed. -/
def Aside (events : List ActEvent) : Prop := removals events = [] ∧ listings events = []

theorem Consistent.aside (consistent : Consistent config workDir past) (aside : Aside events) :
    Consistent config workDir (past ++ events) :=
  consistent.append (by simp [aside.1]) (by simp [aside.2])

theorem Aside.cons {event : ActEvent} (keeps : removal? event = none ∧ listing? event = none)
    (rest : Aside events) : Aside (event :: events) :=
  ⟨(List.filterMap_cons_none keeps.1).trans rest.1, (List.filterMap_cons_none keeps.2).trans rest.2⟩

theorem Aside.append (before : Aside first) (after : Aside second) : Aside (first ++ second) := by
  simp [Aside, before.1, before.2, after.1, after.2]

namespace Job

variable {job job' : Job} {fault : Option Fault} {invocation : Invocation} {next last : JobState}

/-- Where the raster tool is at work it has been started for the file that the job holds. -/
def HoldsInput (config : Config) (past : List ActEvent) (job : Job) : Prop :=
  job.state = .convertingToImages →
    ∃ path, job.intermediate = some path ∧ RasterStarted config job.workDir path past

theorem Launch.aside (launch : Launch job invocation next events job' fault) : Aside events := by
  cases launch <;> exact ⟨rfl, rfl⟩

theorem Launch.holdsInput
    (launch : Launch job (.raster config path job.workDir) next events job' none)
    (known : job.intermediate = some path) :
    HoldsInput config (past ++ events) job' := by
  cases launch with
  | started process time =>
    intro _
    exact ⟨path, known, process, by simp [inState, hold]⟩

/-- A move removes what the raster tool has been started for, and lists the working directory. -/
theorem Move.consistent (consistent : Consistent config job.workDir past)
    (holds : job.HoldsInput config past) (move : Move config job events job' fault) :
    Consistent config job.workDir (past ++ events) := by
  have exited : ∀ tool exit time, Aside (exitEvents tool exit time) := fun _ _ _ => ⟨rfl, rfl⟩
  cases move with
  | office _ _ launch => exact consistent.aside launch.aside
  | raster _ _ _ launch => exact consistent.aside launch.aside
  | noTool | waitRefused | atWork => exact consistent.aside ⟨rfl, rfl⟩
  | badExit tool exit time => exact consistent.aside (exited tool exit time)
  | converted tool exit time _ _ _ rest =>
    rw [← List.append_assoc]
    refine (consistent.aside (exited tool exit time)).append ?_ ?_
    · cases rest with
      | listingFailed | missing => simp [removals]
      | found entries path least launch =>
        have nothing := launch.aside.1
        simp_all [removals]
    · cases rest with
      | listingFailed | missing => simp [listings, release]
      | found entries path least launch =>
        have nothing := launch.aside.2
        simp_all [listings, release]
  | rasterized tool exit time state _ _ rest =>
    -- only here is a file removed: the one that the job holds
    obtain ⟨path, known, started⟩ := holds state
    rw [← List.append_assoc]
    refine (consistent.aside (exited tool exit time)).append ?_ ?_
    · cases rest with
      | kept => simp [removals]
      | removed path' _ known' | removalFailed path' _ _ known' =>
        cases known.symm.trans known'
        simpa [removals] using started.append.append
    · cases rest <;> simp [listings]

theorem Move.holdsInput (holds : job.HoldsInput config past)
    (move : Move config job events job' none) : job'.HoldsInput config (past ++ events) := by
  cases move with
  | office _ _ launch =>
    cases launch
    exact nofun
  | raster path _ staged launch => exact launch.holdsInput staged
  | atWork =>
    intro state
    obtain ⟨path, known, started⟩ := holds state
    exact ⟨path, known, started.append⟩
  | converted tool exit time _ _ _ rest =>
    cases rest with
    | found entries path least launch =>
      rw [List.append_cons, ← List.append_assoc, ← List.append_assoc]
      exact launch.holdsInput rfl
  | rasterized tool exit time _ _ _ rest =>
    cases rest <;> exact nofun

theorem Cleanup.aside (cleanup : Cleanup workDir events) : Aside events := by
  cases cleanup <;> exact ⟨rfl, rfl⟩

theorem Abort.aside (abort : Abort job last events job') : Aside events := by
  obtain ⟨kill, cleanup⟩ := abort
  refine Aside.append ?_ cleanup.aside
  cases kill <;> exact ⟨rfl, rfl⟩

theorem Abort.holdsInput (ended : last.isTerminal = true) (abort : Abort job last events job') :
    job'.HoldsInput config past := by
  cases abort
  intro state
  have state : last = .convertingToImages := state
  simp [state, JobState.isTerminal] at ended

theorem Pause.aside {event : ActEvent} (pause : Pause event) : Aside [event] := by
  cases pause <;> exact ⟨rfl, rfl⟩

theorem HoldsInput.append (holds : job.HoldsInput config past) :
    job.HoldsInput config (past ++ events) := by
  intro state
  obtain ⟨path, known, started⟩ := holds state
  exact ⟨path, known, started.append⟩

theorem Turn.consistent (consistent : Consistent config job.workDir past)
    (holds : job.HoldsInput config past) (turn : Turn config job events job') :
    Consistent config job'.workDir (past ++ events) ∧ job'.HoldsInput config (past ++ events) := by
  rw [turn.identity.workDir]
  cases turn with
  | moved move => exact ⟨move.consistent consistent holds, move.holdsInput holds⟩
  | failed fault move abort =>
    refine ⟨?_, abort.holdsInput rfl⟩
    have noted : ∀ warning, Aside [.noted warning] := fun _ => ⟨rfl, rfl⟩
    rw [List.append_cons, ← List.append_assoc, ← List.append_assoc]
    exact ((move.consistent consistent holds).aside (noted _)).aside abort.aside

theorem Chain.consistent (consistent : Consistent config job.workDir past)
    (holds : job.HoldsInput config past) (chain : Chain config job events job') :
    Consistent config job'.workDir (past ++ events) ∧ job'.HoldsInput config (past ++ events) := by
  induction chain generalizing past with
  | stay => simpa using ⟨consistent, holds⟩
  | pause idle _ ih =>
    rw [List.append_cons]
    exact ih (consistent.aside idle.aside) holds.append
  | turn _ turn _ ih =>
    rw [← List.append_assoc]
    obtain ⟨consistent', holds'⟩ := turn.consistent consistent holds
    exact ih consistent' holds'
  | cancel _ abort _ ih =>
    rw [← List.append_assoc]
    refine ih ?_ (abort.holdsInput rfl)
    rw [abort.identity.workDir]
    exact consistent.aside abort.aside

end Job

open Job

/-- What a raster tool is started for: the copy of the source, or what has been listed. -/
def IsInput (config : Config) (source workDir : Path) (starting events : List ActEvent)
    (path : Path) : Prop :=
  .asked (.copy source path) (.ok ()) ∈ starting ∨
    ∃ entries, .asked (.listDir workDir) (.ok entries) ∈ events ∧
      IsLeast config.pipeline entries path

theorem Plan.invocations {source : Path} {staged : Option Path}
    {handed : ToolProcess → Path → Reply ToolProcess → Prop}
    {started : List (Invocation × Reply ToolProcess)}
    (plan : Plan config source workDir staged handed started) :
    ∀ launch ∈ started, launch.1 = .office config source workDir ∨
      ∃ path, launch.1 = .raster config path workDir ∧
        (staged = some path ∨ ∃ process answer, handed process path answer) := by
  cases plan with
  | nothing => simp
  | copy path answer copied => simpa using .inr ⟨path, rfl, .inl copied⟩
  | office => simp
  | both process found answer plain handover =>
    simpa using .inr ⟨found, rfl, .inr ⟨process, answer, handover⟩⟩

theorem Handover.listed {found : Path} {process : ToolProcess} {answer : Reply ToolProcess}
    (handover : Handover config workDir process found answer events) :
    ∃ entries, .asked (.listDir workDir) (.ok entries) ∈ events ∧
      IsLeast config.pipeline entries found := by
  obtain ⟨before, after, entries, time, least⟩ := handover
  exact ⟨entries, by simp, least⟩

namespace Converter

variable {c c₁ c' : Converter} {call : Call} {response : Response} {job : Job}

theorem Housing.aside {result : Except ConversionError Bool}
    (housing : Housing workDir events result) : Aside events := by
  cases housing with
  | unlistable | occupied | unwritable => exact ⟨rfl, rfl⟩
  | unmade preexisting | made preexisting => cases preexisting <;> exact ⟨rfl, rfl⟩

theorem Staging.aside {source : Path} {preexisting : Bool}
    {result : Except ConversionError (Option Path)}
    (staging : Staging config source workDir preexisting events result) : Aside events := by
  cases staging with
  | plain | copied | left => exact ⟨rfl, rfl⟩
  | undone name cause _ _ _ cleanup => exact .cons ⟨rfl, rfl⟩ cleanup.aside

theorem Preparation.aside {source : Path} {result : Except ConversionError (Option Path)}
    (prepared : Preparation config source workDir events result) : Aside events := by
  cases prepared with
  | unsupported | unreadable => exact ⟨rfl, rfl⟩
  | unhoused _ housing => exact .cons ⟨rfl, rfl⟩ housing.aside
  | housed _ _ house stage => exact .cons ⟨rfl, rfl⟩ (house.aside.append stage.aside)

theorem Conduct.consistent (current : c.job = some job) (silent : response.registers = false)
    (consistent : Consistent c.config job.workDir past) (holds : job.HoldsInput c.config past)
    (conduct : Conduct c call events response c') : ∃ job', c'.job = some job' ∧
      job'.workDir = job.workDir ∧ Consistent c.config job'.workDir (past ++ events) ∧
      job'.HoldsInput c.config (past ++ events) := by
  cases conduct with
  | busy => exact ⟨job, current, rfl, consistent.aside ⟨rfl, rfl⟩, holds.append⟩
  | rejected _ _ _ prepared =>
    exact ⟨job, current, rfl, consistent.aside prepared.aside, holds.append⟩
  | registered => cases silent
  | listed handle known =>
    obtain ⟨here, -⟩ := find?_eq_some.mp known
    rw [current] at here
    cases here
    refine ⟨job, current, rfl, consistent.append ?_ ?_, holds.append⟩ <;>
      simp [removals, listings]
  | worked _ _ works =>
    cases works with
    | idle pauses =>
      obtain ⟨consistent', holds'⟩ :=
        Chain.consistent consistent holds (.pauses pauses)
      exact ⟨job, current, rfl, consistent', holds'⟩
    | busy here chain =>
      rw [current] at here
      cases here
      obtain ⟨consistent', holds'⟩ := chain.consistent consistent holds
      exact ⟨_, rfl, chain.identity.workDir, consistent', holds'⟩

variable {σ : Type} {r : Surroundings σ} {s s' : σ} {exchanges : List (Exchange σ)}

theorem Linked.consistent (linked : History.Linked r c s exchanges c' s')
    (current : c.job = some job) (silent : ∀ e ∈ exchanges, e.response.registers = false)
    (consistent : Consistent c.config job.workDir past) (holds : job.HoldsInput c.config past) :
    ∃ job', c'.job = some job' ∧ job'.workDir = job.workDir ∧
      Consistent c.config job'.workDir (past ++ exchanges.flatMap (·.events)) ∧
      job'.HoldsInput c.config (past ++ exchanges.flatMap (·.events)) := by
  refine (Linked.carry (fun between events => between.config = c.config ∧
    ∃ job', between.job = some job' ∧ job'.workDir = job.workDir ∧
      Consistent c.config job'.workDir events ∧ job'.HoldsInput c.config events) past ?_ linked
    ⟨rfl, job, current, rfl, consistent, holds⟩).2
  rintro e there between past conduct ⟨configured, job', current', same, consistent, holds⟩
  rw [← configured] at consistent holds ⊢
  obtain ⟨job'', current'', same', consistent', holds'⟩ :=
    conduct.consistent current' (silent e there) consistent holds
  exact ⟨conduct.config_eq, job'', current'', same'.trans same, consistent', holds'⟩

/-- From the start of a job on, its tools are started for the source, its directory and the
page-description file, and the disk is asked about nothing else. -/
theorem Linked.inputs {source : Path} {starting : List ActEvent}
    (conduct : Conduct c (.start source workDir) starting response c₁)
    (registers : response.registers = true) (linked : History.Linked r c₁ s exchanges c' s')
    (silent : ∀ e ∈ exchanges, e.response.registers = false) :
    (∀ launch ∈ launches (exchanges.flatMap (·.events)),
      launch.1 = .office c.config source workDir ∨
        ∃ path, launch.1 = .raster c.config path workDir ∧
          IsInput c.config source workDir starting (exchanges.flatMap (·.events)) path) ∧
    Consistent c.config workDir (exchanges.flatMap (·.events)) := by
  obtain ⟨staged, prepared, rfl⟩ := conduct.registers_job registers
  obtain ⟨copies, plain⟩ := prepared.staged_eq
  constructor
  · obtain ⟨job, current, fresh⟩ := account_registered c source workDir staged fun _ found _ =>
      IsInput c.config source workDir starting (exchanges.flatMap (·.events)) found
    have shown : ∀ x ∈ exchanges, ∀ process found answer,
        Handover c.config workDir process found answer x.events →
        IsInput c.config source workDir starting (exchanges.flatMap (·.events)) found := by
      intro x there process found answer handover
      obtain ⟨entries, listed, least⟩ := handover.listed
      exact .inr ⟨entries, List.mem_flatMap.mpr ⟨x, there, listed⟩, least⟩
    obtain ⟨_, _, account⟩ := Linked.account linked current silent fresh shown
    intro launch there
    rcases account.plan.invocations launch there with office | ⟨path, raster, input⟩
    · exact .inl office
    · refine .inr ⟨path, raster, ?_⟩
      rcases input with rfl | ⟨process, answer, input⟩
      · cases intermediate : c.config.pipeline.isIntermediate source with
        | false => cases plain intermediate
        | true =>
          obtain ⟨name, -, copied, same⟩ := copies intermediate
          rw [Option.some.inj same]
          exact .inl copied
      · exact input
  · have nothing : Consistent c.config workDir [] := ⟨nofun, nofun⟩
    obtain ⟨job, -, same, consistent, -⟩ := Linked.consistent linked rfl silent nothing nofun
    rwa [same] at consistent

/-- A tool is told a path as it is just where the path is text, and the template for the frames is
directly below the output directory just where stem and extension together are a single name, or
an absolute path to there. For each job the paths meant are the right ones: the source, the working
directory, and the page-description file, which has been copied or is the least one listed; what
is listed is the directory that the tools have got, and what is removed the file that the raster
tool has got. -/
theorem tool_arguments_exact_iff_text {σ : Type} (r : Surroundings σ) (config : Config)
    (compiler : PatternCompiler) (calls : List Call) (s : σ) :
    (∀ source outDir, ∃ directory document, (Invocation.office config source outDir).arguments =
        ["--headless", "--invisible", "--convert-to", config.pipeline.intermediateExtension,
          "--outdir", directory, document] ∧
      (Path.ofString directory = outDir ↔ outDir.IsText) ∧
      (Path.ofString document = source ↔ source.IsText)) ∧
    (∀ intermediate outDir, ∃ file template,
      (Invocation.raster config intermediate outDir).arguments = [file, template] ∧
      (Path.ofString file = intermediate ↔ intermediate.IsText) ∧
      (Path.ofString template = Invocation.frameTemplate config outDir ↔
        (Invocation.frameTemplate config outDir).IsText) ∧
      (outDir.IsText → (Invocation.frameTemplate config outDir).IsText)) ∧
    (∀ outDir : Path, let frame := Invocation.frameName config
      (∃ name, (Invocation.frameTemplate config outDir).steps = outDir.steps ++ [.name name]) ↔
        if frame.isAbsolute then ∃ name, frame.steps = outDir.steps ++ [.name name]
        else ∃ name, frame.steps = [.name name]) ∧
    let h := History.of r calls { config, compiler } s
    ∀ earlier e during rest source workDir, h.exchanges = earlier ++ e :: (during ++ rest) →
      e.call = .start source workDir → e.response.registers = true →
      (∀ x ∈ during, x.response.registers = false) →
      let events := during.flatMap (·.events)
      (∀ launch ∈ launches events, launch.1 = .office config source workDir ∨
        ∃ path, launch.1 = .raster config path workDir ∧
          IsInput config source workDir e.events events path) ∧
      (∀ path ∈ listings events, path = workDir) ∧
      ∀ path ∈ removals events, RasterStarted config workDir path events := by
  refine ⟨Invocation.office_told config, ?_, Invocation.frameTemplate_below_iff config, ?_⟩
  · intro intermediate outDir
    obtain ⟨file, template, told, heard, framed⟩ :=
      Invocation.raster_told config intermediate outDir
    exact ⟨file, template, told, heard, framed, Invocation.isText_frameTemplate config outDir⟩
  · intro h earlier e during rest source workDir split called registers silent events
    have linked := History.of_linked r calls { config, compiler } s
    rw [split] at linked
    obtain ⟨c, world, before, afterwards⟩ := History.linked_append.mp linked
    obtain ⟨conduct, onward⟩ := Linked.conduct afterwards
    obtain ⟨last, world', through, -⟩ := History.linked_append.mp onward
    have configured : c.config = config := Linked.config_eq before
    rw [called] at conduct
    obtain ⟨started, consistent⟩ := Linked.inputs conduct registers through silent
    rw [configured] at started consistent
    exact ⟨started, consistent.listed, consistent.removed⟩

/-- A rehearsal with a page-description file whose name is no text: the raster tool is started for
the copy, which is removed in the end, but what it has been told of is another file. -/
theorem rehearsed_argument_of_nontext_name :
    let source : Path := ⟨[0xFF, 0x2E, 0x70, 0x64, 0x66]⟩
    let workDir := Path.ofString "work"
    let copy := workDir.join source
    let h := History.of Rehearsal.surroundings [.start source workDir, .poll ⟨1⟩, .poll ⟨1⟩]
      { config := {} }
      { disk := { entries := [⟨source, false⟩] }, script := [{ waits := [.exit 0] }] }
    let events := h.exchanges.tail.flatMap (·.events)
    removals events = [copy] ∧ RasterStarted {} workDir copy events ∧
      ∃ file template, (Invocation.raster {} copy workDir).arguments = [file, template] ∧
        Path.ofString file ≠ copy ∧
        Path.ofString template = Invocation.frameTemplate {} workDir := by
  intro source workDir copy h events
  have silent : ∀ x ∈ h.exchanges.tail, x.response.registers = false := by decide +kernel
  have gone : removals events = [copy] := by decide +kernel
  have first : ∃ e, h.exchanges = [] ++ e :: (h.exchanges.tail ++ []) ∧
      e.call = .start source workDir ∧ e.response.registers = true := by
    rw [List.append_nil]
    exact ⟨_, rfl, rfl, by decide +kernel⟩
  obtain ⟨e, split, called, registers⟩ := first
  obtain ⟨-, told, -, run⟩ := tool_arguments_exact_iff_text Rehearsal.surroundings {} .standard
    [.start source workDir, .poll ⟨1⟩, .poll ⟨1⟩]
    { disk := { entries := [⟨source, false⟩] }, script := [{ waits := [.exit 0] }] }
  obtain ⟨-, -, removed⟩ :=
    run [] e h.exchanges.tail [] source workDir split called registers silent
  obtain ⟨file, template, arguments, heard, framed, -⟩ := told copy workDir
  refine ⟨gone, removed copy (by simp [events, gone]), file, template, arguments, ?_, ?_⟩
  · rw [ne_eq, heard]
    decide +kernel
  · rw [framed]
    decide +kernel

end Converter

end SlideConverter

import SlideConverter.CommandLine.Session
import SlideConverter.Proofs.Conversion.Reporting
import SlideConverter.Rehearsal.Obliging

/-!
# What a classification foretells

A classification names the tools that a document needs from the document's name alone; a conversion
finds out again, when it starts and when it looks at its job. Both come to the same: a source that
is classified as rejected is rejected by every start, and of every other one the job takes the
route that has been named, whatever is answered.
-/

namespace SlideConverter

/-- A record with a field of that name and text. -/
def Tree.Says (t : Tree) (name text : String) : Prop :=
  ∃ fields, t = .record fields ∧ (name, .string text) ∈ fields

theorem CommandLine.classification_says (config : Config) (source : Path) (exist : Bool)
    (text : String) : (classification config source exist).Says "route" text ↔
      (config.pipeline.route source).name = text := by
  constructor
  · rintro ⟨fields, same, there⟩
    have same' := Tree.table.inj same
    have keyed : (some "route", .string text) ∈ fields.map fun field => (some field.1, field.2) :=
      List.mem_map.mpr ⟨_, there, rfl⟩
    rw [← same'] at keyed
    simpa [Tree.string, eq_comm] using keyed
  · rintro rfl
    exact ⟨_, rfl, by simp⟩

theorem Route.name_injective {route route' : Route} (same : route.name = route'.name) :
    route = route' := by
  cases route <;> cases route' <;> first | rfl | (revert same; decide)

section Plans

variable {config : Config} {source workDir path : Path}
  {handed : ToolProcess → Path → Reply ToolProcess → Prop}
  {started : List (Invocation × Reply ToolProcess)}

theorem Plan.stages_of_staged (plan : Plan config source workDir (some path) handed started) :
    ∀ stage ∈ started.map (·.1.stage), stage = .images := by
  cases plan with
  | nothing => simp
  | copy => simp [Invocation.raster]
  | office _ plain | both _ _ _ plain => cases plain

theorem Plan.stages_of_plain (plan : Plan config source workDir none handed started) :
    ∀ stage ∈ (started.map (·.1.stage)).head?, stage = .intermediate := by
  cases plan with
  | nothing => simp
  | copy _ _ copied => cases copied
  | office | both => simp [Invocation.office]

end Plans

namespace Converter

/-- In some history a converter that has no job at work is asked to start `source`: `e` is that
call, and `during` is what is called afterwards, until another job is registered. -/
inductive Opening (config : Config) (source : Path) {σ : Type} :
    Exchange σ → List (Exchange σ) → Prop
  | mk (r : Surroundings σ) (compiler : PatternCompiler) (calls : List Call) (s : σ)
      (earlier : List (Exchange σ)) (e : Exchange σ) (during rest : List (Exchange σ))
      (workDir : Path)
      (split : (History.of r calls { config, compiler } s).exchanges =
        earlier ++ e :: (during ++ rest))
      (called : e.call = .start source workDir) (idle : e.before.activeJob? = none)
      (silent : ∀ x ∈ during, x.response.registers = false) :
    Opening config source e during

/-- A job has been registered, and its report says whether the office tool is left out. -/
def Skips {σ : Type} (e : Exchange σ) (skipped : Bool) : Prop :=
  ∃ handle report, e.response = .started (.ok handle) ∧ e.after.report handle = .ok report ∧
    report.skippedIntermediate = skipped

/-- The stages of the tools that are started, or refuse to be, in that order. -/
def launchedStages {σ : Type} (exchanges : List (Exchange σ)) : List Stage :=
  (launches (exchanges.flatMap (·.events))).map (·.1.stage)

/-- Every start of `source` on a converter that has no job at work is turned down for its type. -/
def AlwaysRejected (config : Config) (source : Path) : Prop :=
  ∀ {σ : Type} (e : Exchange σ) (during : List (Exchange σ)), Opening config source e during →
    e.response = .started (.error (.invalidInput (.unsupportedType source)))

/-- A job can be registered for `source`. Each of its jobs skips the office tool or not, just as
`skipped` says, and the stages of the tools that are started for it, or refuse to be, are right. -/
structure AlwaysTakes (config : Config) (source : Path) (skipped : Bool)
    (right : List Stage → Prop) : Prop where
  startable : ∃ (σ : Type) (e : Exchange σ) (during : List (Exchange σ)),
    Opening config source e during ∧ e.response.registers = true
  each : ∀ {σ : Type} (e : Exchange σ) (during : List (Exchange σ)),
    Opening config source e during → e.response.registers = true →
    Skips e skipped ∧ right (launchedStages during)

variable {config : Config} {source workDir : Path} {σ : Type} {e : Exchange σ}
  {during : List (Exchange σ)} {right : List Stage → Prop}

theorem Preparation.accepted {events : List ActEvent} {staged : Option Path}
    (prepared : Preparation config source workDir events (.ok staged)) :
    config.pipeline.accepts source = true := by
  cases prepared with
  | housed _ accepted => exact accepted

/-- The start goes one of its ways, and the calls after it go on from there. -/
theorem Opening.conduct (opening : Opening config source e during) :
    e.before.config = config ∧ e.before.activeJob? = none ∧
      (∀ x ∈ during, x.response.registers = false) ∧ ∃ (workDir : Path),
      Conduct e.before (.start source workDir) e.events e.response e.after ∧
      ∃ (r : Surroundings σ) (c' : Converter) (s' : σ),
        History.Linked r e.after e.world during c' s' := by
  obtain ⟨r, compiler, calls, s, earlier, e, during, rest, workDir, split, called, idle, silent⟩ :=
    opening
  have linked := History.of_linked r calls { config, compiler } s
  rw [split] at linked
  obtain ⟨c, world, before, afterwards⟩ := History.linked_append.mp linked
  obtain ⟨conduct, onward⟩ := Linked.conduct afterwards
  obtain ⟨same, -, -⟩ := afterwards
  obtain ⟨c', s', through, -⟩ := History.linked_append.mp onward
  rw [called, ← same] at conduct
  refine ⟨?_, idle, silent, workDir, conduct, r, c', s', through⟩
  rw [same]
  exact Linked.config_eq before

/-- A source that is not accepted is rejected as such, whatever is answered. -/
theorem Conduct.rejected_of_not_accepted {c c' : Converter} {events : List ActEvent}
    {response : Response} (idle : c.activeJob? = none)
    (refused : c.config.pipeline.accepts source = false)
    (conduct : Conduct c (.start source workDir) events response c') :
    response = .started (.error (.invalidInput (.unsupportedType source))) := by
  cases conduct with
  | busy _ _ active => simp [idle] at active
  | rejected _ _ _ prepared =>
    cases prepared with
    | unsupported => rfl
    | unreadable _ accepted => simp [refused] at accepted
    | unhoused accepted => simp [refused] at accepted
    | housed _ accepted => simp [refused] at accepted
  | registered _ _ _ prepared => simp [prepared.accepted] at refused
  | worked other => cases other

/-- What is skipped is told from the beginning. -/
theorem report_register (c : Converter) (source workDir : Path) (staged : Option Path) :
    ∃ report, (c.register source workDir staged).2.report ⟨c.nextId⟩ = .ok report ∧
      report.skippedIntermediate = staged.isSome :=
  ⟨_, inspect_of_current (c := (c.register source workDir staged).2) rfl Job.report, rfl⟩

/-- Where a start has registered a job, the intermediate extension alone decides what is skipped
and which tools are started. -/
theorem Opening.registered (opening : Opening config source e during)
    (registers : e.response.registers = true) :
    config.pipeline.accepts source = true ∧
      Skips e (config.pipeline.isIntermediate source) ∧
      (config.pipeline.isIntermediate source = true →
        ∀ stage ∈ launchedStages during, stage = .images) ∧
      (config.pipeline.isIntermediate source = false →
        ∀ stage ∈ (launchedStages during).head?, stage = .intermediate) := by
  obtain ⟨configured, -, silent, workDir, conduct, r, c', s', through⟩ := opening.conduct
  obtain ⟨_, _, staged, same, response, prepared, after⟩ := conduct.of_registers registers
  cases same
  rw [configured] at prepared
  have configured' : e.after.config = config := conduct.config_eq.trans configured
  obtain ⟨job, current, fresh⟩ :=
    account_registered e.before source workDir staged fun _ _ _ => True
  rw [← after] at current
  rw [configured, ← configured'] at fresh
  obtain ⟨_, -, account⟩ := Linked.account through current silent fresh
    fun _ _ _ _ _ _ => trivial
  have plan := account.plan
  rw [configured', List.nil_append] at plan
  obtain ⟨copies, plain⟩ := prepared.staged_eq
  refine ⟨prepared.accepted, ?_, ?_, ?_⟩
  · obtain ⟨report, reported, skipped⟩ := report_register e.before source workDir staged
    rw [← after] at reported
    exact ⟨_, report, response, reported, skipped.trans prepared.isSome_staged⟩
  · intro intermediate
    obtain ⟨name, -, -, rfl⟩ := copies intermediate
    exact plan.stages_of_staged
  · intro document
    rw [plain document] at plan
    exact plan.stages_of_plain

/-- Where everything is answered obligingly, a source that is accepted is started. -/
theorem start_obliging (accepted : config.pipeline.accepts source = true) :
    let p := (({ config } : Converter).respond (.start source workDir)).perform
      (Rehearsal.obliging [] ⟨0⟩) ()
    p.value.1.registers = true := by
  cases intermediate : config.pipeline.isIntermediate source with
  | false =>
    simp [respond, start, activeJob?, prepare, accepted, prepareWorkDir, stageSource, intermediate,
      Dialogue.perform, ask, Dialogue.question, bind, pure, Dialogue.bind, Rehearsal.obliging,
      Response.registers]
  | true =>
    obtain ⟨name, named⟩ := fileName_of_isIntermediate intermediate
    simp [respond, start, activeJob?, prepare, accepted, prepareWorkDir, stageSource, intermediate,
      named, Dialogue.perform, ask, Dialogue.question, bind, pure, Dialogue.bind,
      Rehearsal.obliging, Response.registers]

theorem exists_opening (accepted : config.pipeline.accepts source = true) :
    ∃ (σ : Type) (e : Exchange σ) (during : List (Exchange σ)),
      Opening config source e during ∧ e.response.registers = true := by
  let h := History.of (Rehearsal.obliging [] ⟨0⟩) [.start source (.ofString "work")] { config } ()
  obtain ⟨e, split, called, fresh, registers⟩ : ∃ e, h.exchanges = [] ++ e :: ([] ++ []) ∧
      e.call = .start source (.ofString "work") ∧ e.before = ({ config } : Converter) ∧
      e.response.registers = true :=
    ⟨_, rfl, rfl, rfl, start_obliging accepted⟩
  exact ⟨Unit, e, [], .mk _ _ _ _ _ _ _ _ _ split called (by rw [fresh]; rfl) (by simp), registers⟩

/-! ## Route by route -/

theorem route_eq_rejected_iff :
    config.pipeline.route source = .rejected ↔ AlwaysRejected config source := by
  cases accepted : config.pipeline.accepts source with
  | false =>
    have rejected : config.pipeline.route source = .rejected := by
      simp [PipelineOptions.route, accepted]
    refine iff_of_true rejected ?_
    intro σ e during opening
    obtain ⟨configured, idle, -, workDir, conduct, -⟩ := opening.conduct
    exact conduct.rejected_of_not_accepted idle (by rw [configured, accepted])
  | true =>
    have taken : config.pipeline.route source ≠ .rejected := by
      simp only [PipelineOptions.route, accepted, if_true]
      split <;> decide
    refine iff_of_false taken ?_
    intro always
    obtain ⟨_, e, during, opening, registers⟩ := exists_opening accepted
    rw [always e during opening] at registers
    cases registers

/-- The two other routes. What is right for a route has to follow from the intermediate extension;
conversely what a single job skips already tells the route. -/
theorem route_eq_iff_takes (skipped : Bool)
    (follows : ∀ {σ : Type} {e : Exchange σ} {during : List (Exchange σ)},
      Opening config source e during → e.response.registers = true →
      config.pipeline.isIntermediate source = skipped → right (launchedStages during)) :
    config.pipeline.route source = (if skipped then .raster else .officeAndRaster) ↔
      AlwaysTakes config source skipped right := by
  constructor
  · intro route
    obtain ⟨accepted, extension⟩ : config.pipeline.accepts source = true ∧
        config.pipeline.isIntermediate source = skipped := by
      cases skipped <;> simpa [PipelineOptions.route, ite_eq_iff] using route
    refine ⟨exists_opening accepted, ?_⟩
    intro σ e during opening registers
    obtain ⟨-, skips, -⟩ := opening.registered registers
    exact ⟨extension ▸ skips, follows opening registers extension⟩
  · rintro ⟨⟨_, e, during, opening, registers⟩, each⟩
    obtain ⟨accepted, ⟨_, _, same, reported, extension⟩, -⟩ := opening.registered registers
    obtain ⟨⟨_, _, same', reported', rfl⟩, -⟩ := each e during opening registers
    rw [same] at same'
    cases same'
    rw [reported] at reported'
    cases reported'
    simp [PipelineOptions.route, accepted, extension]

/-- What a classification says of the route is what becomes of the source. It says `rejected` where
every start rejects it, `raster` where it can be started and each of its jobs skips the office tool
and starts the raster tool alone, and `office+raster` where it can be started and each of its jobs
skips nothing and starts the office tool first. Every answer of the disk and of the tools is
allowed for, and everything else that may be called before and after. -/
theorem classified_route_iff_taken (config : Config) (source : Path) (exist : Bool) :
    let told := CommandLine.classification config source exist
    (told.Says "route" "rejected" ↔ AlwaysRejected config source) ∧
    (told.Says "route" "raster" ↔
      AlwaysTakes config source true fun stages => ∀ stage ∈ stages, stage = .images) ∧
    (told.Says "route" "office+raster" ↔
      AlwaysTakes config source false fun stages =>
        ∀ stage ∈ stages.head?, stage = .intermediate) := by
  intro told
  have names : ∀ route : Route, told.Says "route" route.name ↔
      config.pipeline.route source = route := fun route =>
    (CommandLine.classification_says config source exist route.name).trans
      ⟨Route.name_injective, fun same => congrArg Route.name same⟩
  refine ⟨?_, ?_, ?_⟩
  · exact (names .rejected).trans route_eq_rejected_iff
  · refine (names .raster).trans (route_eq_iff_takes true ?_)
    intro σ e during opening registers intermediate
    obtain ⟨-, -, images, -⟩ := opening.registered registers
    exact images intermediate
  · refine (names .officeAndRaster).trans (route_eq_iff_takes false ?_)
    intro σ e during opening registers plain
    obtain ⟨-, -, -, first⟩ := opening.registered registers
    exact first plain

end Converter

end SlideConverter

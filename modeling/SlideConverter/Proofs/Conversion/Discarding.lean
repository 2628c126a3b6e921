import SlideConverter.Proofs.Conversion.Intermediate
import SlideConverter.Proofs.Slide.Numbering

/-!
# What becomes of the page-description file

In the step in which the raster tool is seen to have ended well, the file that it has been given is
removed, unless it is to be kept, and no other file is ever removed. From a frame that file differs
by its extension alone. Where both extensions are the same, a file that is kept is a slide, and the
template for the frames can be the name of the file itself.
-/

namespace SlideConverter

open Text

/-! ## Names and extensions -/

namespace Path

variable {p q : Path} {front before after name : Bytes}

theorem fileName_of_bytes (proper : IsName name) (path : p.bytes = front ++ name)
    (ended : front = [] ∨ ∃ above, front = above ++ [slash]) : p.fileName = some name := by
  have joined : p = Path.join ⟨front⟩ ⟨name⟩ := by
    obtain ⟨bytes⟩ := p
    subst path
    have relative : (⟨name⟩ : Path).isAbsolute = false := isAbsolute_eq_false proper.1
    rw [join, if_neg (by simp [relative]), if_pos]
    rcases ended with rfl | ⟨above, rfl⟩ <;> simp
  rw [joined]
  exact fileName_join proper

/-- Behind the last dot stands the extension, if there is one. -/
theorem eq_of_extension {extension : Bytes} (path : p.bytes = front ++ dot :: after)
    (nonempty : after ≠ []) (undotted : dot ∉ after) (plain : slash ∉ after)
    (extended : p.extension = some extension) : extension = after := by
  have found : ∀ above before, front = above ++ before → slash ∉ before →
      (above = [] ∨ ∃ higher, above = higher ++ [slash]) → extension = after := by
    intro above before parts last ended
    have proper : IsName (before ++ dot :: after) := by
      apply isName_of_ne
      · have apart : slash ≠ dot := by decide
        simp [last, plain, apart]
      · simp
      · intro lone
        cases before with
        | nil => exact nonempty (List.cons.inj lone).2
        | cons b rest => simp at lone
      · intro two
        cases before with
        | nil => simp [(List.cons.inj two).2] at undotted
        | cons b rest =>
          have ending := (List.cons.inj two).2
          cases rest with
          | nil => exact nonempty (List.cons.inj ending).2
          | cons c rest => simp at ending
    have named := fileName_of_bytes proper (by rw [path, parts, List.append_assoc]) ended
    rw [Path.extension, named, Option.bind_some, splitLast_append before undotted] at extended
    simp only at extended
    split at extended
    · cases extended
    · exact (Option.some.inj extended).symm
  by_cases there : slash ∈ front
  · obtain ⟨before, above, reversed, last⟩ :=
      List.eq_append_cons_of_mem (List.mem_reverse.mpr there)
    have parts : front = (above.reverse ++ [slash]) ++ before.reverse := by
      rw [← List.reverse_reverse front, reversed]
      simp
    exact found _ _ parts (by simpa using last) (.inr ⟨_, rfl⟩)
  · exact found [] front rfl there (.inl rfl)

theorem fileName_congr (same : p.components = q.components) : p.fileName = q.fileName := by
  rw [fileName, same]
  rfl

theorem extensionText_congr (same : p.fileName = q.fileName) :
    p.extensionText = q.extensionText := by
  rw [extensionText, extension, same]
  rfl

end Path

/-! ## Extensions that are configured -/

/-- What can stand behind the last dot of a name, and does stand there where a name ends with it. -/
structure IsExtension (extension : String) : Prop where
  nonempty : Utf8.encode extension ≠ []
  undotted : Path.dot ∉ Utf8.encode extension
  plain : Path.slash ∉ Utf8.encode extension

/-- Page-description files and frames have the same extension. -/
def PipelineOptions.ExtensionsAgree (options : PipelineOptions) : Prop :=
  sameIgnoringAsciiCase options.intermediateExtension options.imageExtension = true

instance (options : PipelineOptions) : Decidable options.ExtensionsAgree :=
  inferInstanceAs (Decidable (_ = true))

variable {options : PipelineOptions} {config : Config} {p q : Path}

theorem isIntermediate_congr (same : p.fileName = q.fileName) :
    options.isIntermediate p = options.isIntermediate q := by
  rw [PipelineOptions.isIntermediate, Path.extensionText_congr same]
  rfl

namespace SlideCollection

theorem isFrame_iff_of_isIntermediate (intermediate : options.isIntermediate p = true) :
    IsFrame options p ↔
      options.ExtensionsAgree ∧ ∃ name, p.fileName = some name ∧ Utf8.IsText name := by
  rw [isFrame_iff, and_congr_left]
  rintro -
  rw [PipelineOptions.isIntermediate] at intermediate
  rw [PipelineOptions.isImage, PipelineOptions.ExtensionsAgree]
  cases extended : p.extensionText with
  | none => simp [extended] at intermediate
  | some e =>
    rw [extended] at intermediate
    simp_all [sameIgnoringAsciiCase]

theorem isFrame_congr (same : p.components = q.components) :
    IsFrame options p ↔ IsFrame options q := by
  have named := Path.fileName_congr same
  rw [isFrame_iff, isFrame_iff, named, PipelineOptions.isImage, Path.extensionText_congr named]
  rfl

/-- What is made of a listed file is a slide just where the file is a frame. -/
theorem exists_slide_iff (entries : List Path) :
    (∃ slide ∈ (ofEntries options entries).slides, slide.imagePath.components = p.components) ↔
      (∃ entry ∈ entries, entry.components = p.components) ∧ IsFrame options p := by
  have frames := (ofEntries_arranged options entries).frames
  constructor
  · rintro ⟨slide, there, same⟩
    have listed := frames.mem_iff.mp (List.mem_map_of_mem there)
    obtain ⟨listed, framed⟩ := List.mem_filter.mp listed
    exact ⟨⟨_, listed, same⟩, (isFrame_congr same).mp (by simpa using framed)⟩
  · rintro ⟨⟨entry, listed, same⟩, framed⟩
    have kept : entry ∈ entries.filter (IsFrame options ·) :=
      List.mem_filter.mpr ⟨listed, by simpa using (isFrame_congr same).mpr framed⟩
    obtain ⟨slide, there, rfl⟩ := List.mem_map.mp (frames.mem_iff.mpr kept)
    exact ⟨slide, there, same⟩

end SlideCollection

/-- The template ends with the image extension, whatever stands before it. -/
theorem frameTemplate_bytes (config : Config) (outDir : Path) : ∃ front,
    (Invocation.frameTemplate config outDir).bytes =
      front ++ Path.dot :: Utf8.encode config.pipeline.imageExtension := by
  have dot : Utf8.encode "." = [Path.dot] := by decide
  rw [Invocation.frameTemplate, Path.ofString, Utf8.encode_append, Utf8.encode_append, dot,
    Path.join]
  split
  · exact ⟨Utf8.encode config.pipeline.slideStem, by simp⟩
  · split
    · exact ⟨outDir.bytes ++ Utf8.encode config.pipeline.slideStem, by simp⟩
    · exact ⟨outDir.bytes ++ Path.slash :: Utf8.encode config.pipeline.slideStem, by simp⟩

/-- A template with the extension of page-description files is configured so. -/
theorem extensionsAgree_of_frameTemplate {outDir : Path}
    (proper : IsExtension config.pipeline.imageExtension)
    (intermediate :
      config.pipeline.isIntermediate (Invocation.frameTemplate config outDir) = true) :
    config.pipeline.ExtensionsAgree := by
  obtain ⟨front, bytes⟩ := frameTemplate_bytes config outDir
  rw [PipelineOptions.isIntermediate] at intermediate
  split at intermediate
  · rename_i e extended
    obtain ⟨after, extended, read⟩ := Option.bind_eq_some_iff.mp extended
    obtain rfl :=
      Path.eq_of_extension bytes proper.nonempty proper.undotted proper.plain extended
    rw [Utf8.decode?_encode] at read
    cases read
    simp_all [PipelineOptions.ExtensionsAgree, sameIgnoringAsciiCase]
  · cases intermediate

/-! ## What is removed for a job -/

open Job

/-- The raster tools that are started, in that order. -/
def rasters (events : List ActEvent) : List (Invocation × Reply ToolProcess) :=
  (launches events).filter (·.1.stage = .images)

/-- What is asked about the page-description file when the raster tool has ended well. -/
def discarding (config : Config) (path : Path) : List ActEvent :=
  if config.pipeline.keepIntermediate then [] else [.asked (.removeFile path) (.ok ())]

/-- The one raster tool that is started has been given `path` and is seen to have ended well; then
and there `path` is removed, unless it is to be kept. No other file is removed, and no tool is
touched again. -/
inductive Concluded (config : Config) (workDir path : Path) : List ActEvent → Prop
  | mk (tool : RunningTool) (time : Duration) (first second : List ActEvent)
      (started : rasters first = [(.raster config path workDir, .ok tool.process)])
      (before : removals first = []) (after : removals second = [])
      (untouched : toolCalls second = []) :
    Concluded config workDir path
      (first ++ (exitEvents tool ⟨some 0⟩ time ++ discarding config path) ++ second)

variable {source workDir path : Path} {starting past events : List ActEvent}

@[simp] theorem rasters_append (first second : List ActEvent) :
    rasters (first ++ second) = rasters first ++ rasters second := by
  simp [rasters]

theorem rasters_of_launches (silent : launches events = []) : rasters events = [] := by
  rw [rasters, silent]
  rfl

theorem IsInput.append (input : IsInput config source workDir starting past path) :
    IsInput config source workDir starting (past ++ events) path := by
  rcases input with copied | ⟨entries, listed, least⟩
  · exact .inl copied
  · exact .inr ⟨entries, List.mem_append_left _ listed, least⟩

theorem Concluded.append (concluded : Concluded config workDir path past)
    (spared : removals events = []) (untouched : toolCalls events = []) :
    Concluded config workDir path (past ++ events) := by
  obtain ⟨tool, time, first, second, started, before, after, calls⟩ := concluded
  rw [List.append_assoc]
  exact .mk tool time first (second ++ events) started before (by simp [after, spared])
    (by simp [calls, untouched])

theorem Concluded.removals_eq (concluded : Concluded config workDir path events) :
    removals events = if config.pipeline.keepIntermediate then [] else [path] := by
  obtain ⟨tool, time, first, second, -, before, after, -⟩ := concluded
  rw [removals_append, removals_append, before, after, discarding]
  split <;> rfl

namespace Job

/-- How far a job has come, what has been removed for it, and what its raster tool has got. -/
def InputFate (config : Config) (source workDir : Path) (starting past : List ActEvent)
    (job : Job) : Prop :=
  job.workDir = workDir ∧
  match job.state with
  | .init | .convertingToIntermediate => removals past = [] ∧ rasters past = [] ∧
      ∀ path, job.intermediate = some path → IsInput config source workDir starting past path
  | .convertingToImages => removals past = [] ∧ ∃ path tool, job.intermediate = some path ∧
      job.running = some tool ∧ rasters past = [(.raster config path workDir, .ok tool.process)] ∧
      IsInput config source workDir starting past path
  | .finished => ∃ path, IsInput config source workDir starting past path ∧
      Concluded config workDir path past
  | .cancelled | .failed _ => True

variable {job job' : Job} {last : JobState}

/-- Pauses and looks that remove and start nothing leave a job where it stands. -/
theorem InputFate.silent (fate : InputFate config source workDir starting past job)
    (spared : removals events = []) (silent : launches events = [])
    (untouched : job.state = .finished → toolCalls events = []) :
    InputFate config source workDir starting (past ++ events) job := by
  obtain ⟨placed, fate⟩ := fate
  refine ⟨placed, ?_⟩
  have unstarted := rasters_of_launches silent
  cases state : job.state with
  | init | convertingToIntermediate =>
    simp only [state] at fate
    obtain ⟨before, none, input⟩ := fate
    exact ⟨by simp [before, spared], by simp [none, unstarted],
      fun path known => (input path known).append⟩
  | convertingToImages =>
    simp only [state] at fate
    obtain ⟨before, path, tool, known, held, started, input⟩ := fate
    exact ⟨by simp [before, spared], path, tool, known, held, by simp [started, unstarted],
      input.append⟩
  | finished =>
    simp only [state] at fate
    obtain ⟨path, input, concluded⟩ := fate
    exact ⟨path, input.append, concluded.append spared (untouched state)⟩
  | cancelled | failed => trivial

theorem InputFate.move (fate : InputFate config source workDir starting past job)
    (active : job.state.isTerminal = false) (move : Move config job events job' none) :
    InputFate config source workDir starting (past ++ events) job' := by
  cases move with
  | office state plain launch =>
    obtain ⟨placed, fate⟩ := fate
    simp only [state] at fate
    obtain ⟨before, none, input⟩ := fate
    cases launch with
    | started process time =>
      refine ⟨placed, ?_, ?_, fun path known => (input path known).append⟩
      · rw [removals_append, before]
        rfl
      · rw [rasters_append, none]
        rfl
  | raster path state staged launch =>
    obtain ⟨placed, fate⟩ := fate
    simp only [state] at fate
    obtain ⟨before, none, input⟩ := fate
    cases launch with
    | started process time =>
      refine ⟨placed, ?_, path, _, staged, rfl, ?_, (input path staged).append⟩
      · rw [removals_append, before]
        rfl
      · rw [rasters_append, none, placed]
        rfl
  | atWork =>
    refine fate.silent rfl rfl ?_
    intro finished
    simp [finished, JobState.isTerminal] at active
  | converted tool exit time state held good rest =>
    obtain ⟨placed, fate⟩ := fate
    simp only [state] at fate
    obtain ⟨before, none, -⟩ := fate
    cases rest with
    | found entries path least launch =>
      cases launch with
      | started process time' =>
        refine ⟨placed, ?_, path, _, rfl, rfl, ?_, ?_⟩
        · rw [removals_append, before]
          rfl
        · rw [← placed, rasters_append, none]
          rfl
        · exact .inr ⟨entries, by simp [release, placed], leastIntermediate_eq_some least⟩
  | rasterized tool exit time state held good rest =>
    obtain ⟨placed, fate⟩ := fate
    simp only [state] at fate
    obtain ⟨before, path, tool', known, held', started, input⟩ := fate
    cases held.symm.trans held'
    cases ToolExit.eq_of_success good
    -- the job moves on to the end of what is asked here
    have concluded := Concluded.mk tool time past [] started before rfl rfl
    rw [List.append_nil] at concluded
    cases rest with
    | kept nothing =>
      have keeps : config.pipeline.keepIntermediate = true :=
        nothing.resolve_right (by simp [release, known])
      rw [discarding, if_pos keeps] at concluded
      exact ⟨placed, path, input.append, concluded⟩
    | removed path' discards known' =>
      cases known.symm.trans known'
      rw [discarding, if_neg (by simp [discards])] at concluded
      exact ⟨placed, path, input.append, concluded⟩

theorem InputFate.abort {freed : Job} (placed : job.workDir = workDir)
    (givenUp : last.isGivenUp = true) (abort : Abort job last events freed) :
    InputFate config source workDir starting past freed := by
  have placed' := abort.identity.workDir.trans placed
  cases abort
  refine ⟨placed', ?_⟩
  cases last with
  | cancelled | failed => trivial
  | init | convertingToIntermediate | convertingToImages | finished => cases givenUp

theorem InputFate.chain (fate : InputFate config source workDir starting past job)
    (chain : Chain config job events job') :
    InputFate config source workDir starting (past ++ events) job' := by
  induction chain generalizing past with
  | stay => simpa using fate
  | @pause _ _ event later idle _ ih =>
    have pauses : ∀ e ∈ [event], Pause e := fun e there => List.mem_singleton.mp there ▸ idle
    rw [List.append_cons]
    refine ih (fate.silent idle.aside.1 (launches_of_pauses pauses) fun _ => ?_)
    exact List.filterMap_eq_nil_iff.mpr fun e there => (pauses e there).toolCall?_eq_none
  | turn active turn _ ih =>
    rw [← List.append_assoc]
    refine ih ?_
    cases turn with
    | moved move => exact fate.move active move
    | failed fault move abort =>
      exact .abort (move.identity.workDir.trans fate.1) rfl abort
  | cancel _ abort _ ih =>
    rw [← List.append_assoc]
    exact ih (.abort fate.1 rfl abort)

end Job

/-- A page-description file, and a raster tool that leaves one frame of the same kind. -/
def Rehearsal.page (source : Path) : Rehearsal.World where
  disk := { entries := [{ path := source, isDir := false }] }
  script := [
    { waits := [.exit 0], creates := [{ path := .ofString "work/slide.pdf", isDir := false }] }]

namespace Converter

variable {c c₁ c' : Converter} {call : Call} {response : Response} {job : Job}

theorem Conduct.inputFate (current : c.job = some job) (silent : response.registers = false)
    (fate : InputFate c.config source workDir starting past job)
    (conduct : Conduct c call events response c') : ∃ job', c'.job = some job' ∧
      InputFate c.config source workDir starting (past ++ events) job' := by
  cases conduct with
  | busy => exact ⟨job, current, fate.silent rfl rfl fun _ => rfl⟩
  | rejected _ _ _ prepared =>
    have untouched := prepared.toolCalls_eq_nil
    exact ⟨job, current, fate.silent prepared.aside.1 (launches_of_toolCalls untouched)
      fun _ => untouched⟩
  | registered => cases silent
  | listed => exact ⟨job, current, fate.silent rfl rfl fun _ => rfl⟩
  | worked _ _ works =>
    cases works with
    | idle pauses => exact ⟨job, current, fate.chain (.pauses pauses)⟩
    | busy here chain =>
      rw [current] at here
      cases here
      exact ⟨_, rfl, fate.chain chain⟩

variable {σ : Type} {r : Surroundings σ} {s s' : σ} {exchanges : List (Exchange σ)}

theorem Linked.inputFate (linked : History.Linked r c s exchanges c' s')
    (current : c.job = some job) (silent : ∀ e ∈ exchanges, e.response.registers = false)
    (fate : InputFate c.config source workDir starting past job) : ∃ job', c'.job = some job' ∧
      InputFate c.config source workDir starting (past ++ exchanges.flatMap (·.events)) job' := by
  refine (Linked.carry (fun between events => between.config = c.config ∧
    ∃ job', between.job = some job' ∧ InputFate c.config source workDir starting events job')
    past ?_ linked ⟨rfl, job, current, fate⟩).2
  rintro e there between past conduct ⟨configured, job', current', fate'⟩
  rw [← configured] at fate' ⊢
  exact ⟨conduct.config_eq, conduct.inputFate current' (silent e there) fate'⟩

theorem Preparation.copied
    (prepared : Preparation config source workDir starting (.ok (some path))) :
    .asked (.copy source path) (.ok ()) ∈ starting := by
  cases prepared with
  | housed preexisting _ house stage =>
    cases stage with
    | copied => simp

/-- What the raster tool is started for has the extension of page-description files. -/
theorem isIntermediate_of_isInput {staged : Option Path}
    (prepared : Preparation config source workDir starting (.ok staged))
    (input : IsInput config source workDir starting events path) :
    config.pipeline.isIntermediate path = true := by
  rcases input with copied | ⟨entries, -, least⟩
  · cases prepared with
    | housed preexisting _ house stage =>
      cases house with
      | made =>
        cases stage with
        | plain => cases preexisting <;> simp [inspection] at copied
        | copied name intermediate named =>
          have same : path = workDir.join ⟨name⟩ := by
            cases preexisting <;> simpa [inspection] using copied
          have renamed : (workDir.join ⟨name⟩).fileName = some name :=
            Path.fileName_join (Path.isName_of_fileName named)
          rw [same, isIntermediate_congr (renamed.trans named.symm), intermediate]
  · exact least.intermediate

/-- A job that has finished stays the current one until another is accepted. -/
theorem Linked.finished (linked : History.Linked r c s exchanges c' s')
    (silent : ∀ e ∈ exchanges, e.response.registers = false)
    (done : ∃ x ∈ exchanges, ∃ job, x.after.job = some job ∧ job.state = .finished) :
    ∃ job', c'.job = some job' ∧ job'.state = .finished := by
  obtain ⟨x, there, job', current', finished⟩ := done
  obtain ⟨before, after, rfl⟩ := List.append_of_mem there
  obtain ⟨_, _, -, -, -, onward⟩ := History.linked_append.mp linked
  have ended : job'.state.isTerminal = true := by
    rw [finished]
    rfl
  obtain ⟨same, -⟩ := Linked.of_terminal onward current' ended fun e later =>
    silent e (List.mem_append_right _ (List.mem_cons_of_mem _ later))
  exact ⟨job', same ▸ current', finished⟩

open SlideCollection in
/-- A job that finishes has had one raster tool started, for the staged copy or for what the office
tool has left, and removes that file when the tool has ended well, and no other file; or none at
all where the file is to be kept. The file is among the slides of a listing just where it is listed
with a name that is text and the two extensions are the same, and it is not named by the template
unless the template ends in the extension of page-description files, which for a proper image
extension means that the two are the same. -/
theorem raster_input_slide_iff_extensions_agree {σ : Type} (r : Surroundings σ) (config : Config)
    (compiler : PatternCompiler) (calls : List Call) (s : σ) :
    let h := History.of r calls { config, compiler } s
    let options := config.pipeline
    ∀ earlier e during rest source workDir, h.exchanges = earlier ++ e :: (during ++ rest) →
      e.call = .start source workDir → e.response.registers = true →
      (∀ x ∈ during, x.response.registers = false) →
      (∃ x ∈ during, ∃ job, x.after.job = some job ∧ job.state = .finished) →
      let events := during.flatMap (·.events)
      let template := Invocation.frameTemplate config workDir
      ∃ path, IsInput config source workDir e.events events path ∧
        Concluded config workDir path events ∧
        removals (e.events ++ events) = (if options.keepIntermediate then [] else [path]) ∧
        (∀ entries, (∃ slide ∈ (ofEntries options entries).slides,
            slide.imagePath.components = path.components) ↔
          (∃ entry ∈ entries, entry.components = path.components) ∧ options.ExtensionsAgree ∧
            ∃ name, path.fileName = some name ∧ Utf8.IsText name) ∧
        (path.components = template.components → options.isIntermediate template = true) ∧
        (IsExtension options.imageExtension → path.components = template.components →
          options.ExtensionsAgree) := by
  intro h options earlier e during rest source workDir split called registers silent done events
    template
  have linked := History.of_linked r calls { config, compiler } s
  rw [split] at linked
  obtain ⟨c, world, before, afterwards⟩ := History.linked_append.mp linked
  obtain ⟨conduct, onward⟩ := Linked.conduct afterwards
  obtain ⟨last, world', through, -⟩ := History.linked_append.mp onward
  have configured : c.config = config := Linked.config_eq before
  have configured' : e.after.config = config := conduct.config_eq.trans configured
  rw [called] at conduct
  obtain ⟨staged, prepared, registered⟩ := conduct.registers_job registers
  have aside := prepared.aside
  rw [configured] at prepared
  obtain ⟨job, current, copied⟩ : ∃ job, e.after.job = some job ∧
      InputFate e.after.config source workDir e.events [] job := by
    rw [registered]
    refine ⟨_, rfl, rfl, rfl, rfl, ?_⟩
    rintro path rfl
    exact .inl prepared.copied
  obtain ⟨job', current', finished⟩ := Linked.finished through silent done
  obtain ⟨job'', current'', -, fate⟩ := Linked.inputFate through current silent copied
  cases current'.symm.trans current''
  simp only [finished, configured'] at fate
  obtain ⟨path, input, concluded⟩ := fate
  have intermediate : options.isIntermediate path = true := isIntermediate_of_isInput prepared input
  have named : path.components = template.components → options.isIntermediate template = true := by
    intro same
    rw [← isIntermediate_congr (Path.fileName_congr same), intermediate]
  refine ⟨path, input, concluded, ?_, ?_, named, ?_⟩
  · rw [removals_append, aside.1]
    exact concluded.removals_eq
  · intro entries
    rw [exists_slide_iff, isFrame_iff_of_isIntermediate intermediate]
  · intro proper same
    exact extensionsAgree_of_frameTemplate proper (named same)

/-- A rehearsal with both tools: the file between them is removed and in no list of slides. -/
theorem rehearsed_raster_input_removed :
    let h := History.of Rehearsal.surroundings Rehearsal.conversion { config := {} }
      Rehearsal.slides
    let events := h.exchanges.tail.flatMap (·.events)
    let path := Path.ofString "work/talk.pdf"
    (∃ x ∈ h.exchanges.tail, ∃ job, x.after.job = some job ∧ job.state = .finished) ∧
      removals events = [path] ∧ Concluded {} (.ofString "work") path events ∧
      ∀ entries, ¬ ∃ slide ∈ (SlideCollection.ofEntries {} entries).slides,
        slide.imagePath.components = path.components := by
  intro h events path
  have silent : ∀ x ∈ h.exchanges.tail, x.response.registers = false := by decide +kernel
  have state : h.exchanges.tail.getLast?.bind (·.after.job.map (·.state)) = some .finished := by
    decide +kernel
  have gone : removals events = [path] := by decide +kernel
  have done : ∃ x ∈ h.exchanges.tail, ∃ job, x.after.job = some job ∧ job.state = .finished := by
    obtain ⟨x, latest, state⟩ := Option.bind_eq_some_iff.mp state
    obtain ⟨job, current, finished⟩ := Option.map_eq_some_iff.mp state
    exact ⟨x, List.mem_of_getLast? latest, job, current, finished⟩
  have first : ∃ e, h.exchanges = [] ++ e :: (h.exchanges.tail ++ []) ∧
      e.call = .start (.ofString "talk.odp") (.ofString "work") ∧ e.response.registers = true := by
    rw [List.append_nil]
    exact ⟨_, rfl, rfl, by decide +kernel⟩
  obtain ⟨e, split, called, registers⟩ := first
  obtain ⟨path', -, concluded, -, apart, -⟩ := raster_input_slide_iff_extensions_agree
    Rehearsal.surroundings {} .standard Rehearsal.conversion Rehearsal.slides [] e h.exchanges.tail
    [] _ _ split called registers silent done
  have same : [path'] = [path] := concluded.removals_eq.symm.trans gone
  cases same
  refine ⟨done, gone, concluded, ?_⟩
  rintro entries slide
  obtain ⟨-, agree, -⟩ := (apart entries).mp slide
  revert agree
  decide

open SlideCollection in
/-- With one extension for both, a copy that is kept is a slide, and where the source has the name
of the frame, the frame is what is removed. -/
theorem kept_raster_input_is_slide :
    let work := Path.ofString "work"
    let config (kept : Bool) : Config :=
      { pipeline := { imageExtension := "pdf", keepIntermediate := kept } }
    let h (kept : Bool) (source : Path) := History.of Rehearsal.surroundings
      [.start source work, .poll ⟨1⟩, .poll ⟨1⟩] { config := config kept } (Rehearsal.page source)
    let events (kept : Bool) (source : Path) := (h kept source).exchanges.flatMap (·.events)
    let deck := Path.ofString "deck.pdf"
    let copy := Path.ofString "work/deck.pdf"
    let frame := Path.ofString "work/slide.pdf"
    let page := Path.ofString "slide.pdf"
    ((h true deck).converter.job.map (·.state) = some .finished ∧
      (rasters (events true deck)).map (·.1) = [.raster (config true) copy work] ∧
      removals (events true deck) = [] ∧
      ∃ slide ∈ (ofEntries (config true).pipeline [copy, frame]).slides,
        slide.imagePath.components = copy.components) ∧
    (h false page).converter.job.map (·.state) = some .finished ∧
      (rasters (events false page)).map (·.1) = [.raster (config false) frame work] ∧
      Invocation.frameTemplate (config false) work = frame ∧
      removals (events false page) = [frame] := by
  intro work config h events deck copy frame page
  have finished : (h true deck).converter.job.map (·.state) = some .finished := by decide +kernel
  have given : (rasters (events true deck)).map (·.1) = [.raster (config true) copy work] := by
    decide +kernel
  have kept : removals (events true deck) = [] := by decide +kernel
  have framed : IsFrame (config true).pipeline copy := by decide +kernel
  have slide : ∃ slide ∈ (ofEntries (config true).pipeline [copy, frame]).slides,
      slide.imagePath.components = copy.components :=
    (exists_slide_iff _).mpr ⟨⟨copy, List.mem_cons_self, rfl⟩, framed⟩
  have finished' : (h false page).converter.job.map (·.state) = some .finished := by decide +kernel
  have given' : (rasters (events false page)).map (·.1) =
      [.raster (config false) frame work] := by
    decide +kernel
  have named : Invocation.frameTemplate (config false) work = frame := by decide +kernel
  have gone : removals (events false page) = [frame] := by decide +kernel
  exact ⟨⟨finished, given, kept, slide⟩, finished', given', named, gone⟩

end Converter

end SlideConverter

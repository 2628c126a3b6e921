import SlideConverter.Proofs.CommandLine.Rejection

/-!
# Where the log is, and where the jobs are

Unless the configuration names another file, the log stands in the root of all jobs. The directory
that is made there for a job stands beside it, but a directory that the caller names can be the root
itself, or above it. Then the log is inside: a start finds the directory occupied, or, where it has
taken it for a new one, giving the job up removes the log with all the rest.
-/

namespace SlideConverter

open Text

/-! ## Names of job directories -/

theorem exists_digitChar_of_mem {message : Bytes} {c : Char}
    (there : c ∈ (Digest.sha256 message).toList) : ∃ d < 16, c = Nat.digitChar d := by
  simp only [Digest.sha256, Digest.Sha256.State.hex, Digest.Sha256.hexDigits, String.toList_ofList,
    List.mem_flatMap, List.mem_map] at there
  obtain ⟨word, -, i, -, rfl⟩ := there
  exact ⟨_, Nat.mod_lt _ (by decide), rfl⟩

theorem length_sha256 (message : Bytes) : (Digest.sha256 message).toList.length = 64 := by
  simp [Digest.sha256, Digest.Sha256.State.hex, Digest.Sha256.hexDigits]

/-- A hexadecimal digit has a place in a name. -/
theorem encode_digitChar : ∀ d < 16, String.utf8EncodeChar (Nat.digitChar d) ≠ [] ∧
    Path.slash ∉ String.utf8EncodeChar (Nat.digitChar d) ∧
    Path.dot ∉ String.utf8EncodeChar (Nat.digitChar d) := by
  decide

theorem isName_jobDirectoryName (fingerprint : String) (source : Path) (nanoseconds : Nat) :
    Path.IsName (Utf8.encode (jobDirectoryName fingerprint source nanoseconds)) := by
  rw [jobDirectoryName]
  generalize Utf8.encode (fingerprint ++ ":" ++ source.display ++ ":" ++ toString nanoseconds) =
    message
  rw [Utf8.encode, String.toList_ofList]
  have digits : ∀ c ∈ (Digest.sha256 message).toList.take 16, ∃ d < 16, c = Nat.digitChar d :=
    fun c there => exists_digitChar_of_mem (List.mem_of_mem_take there)
  have length : ((Digest.sha256 message).toList.take 16).length = 16 := by
    simp [length_sha256]
  generalize (Digest.sha256 message).toList.take 16 = chars at digits length
  have bytes : ∀ b ∈ Utf8.encodeChars chars,
      ∃ d < 16, b ∈ String.utf8EncodeChar (Nat.digitChar d) := by
    intro b there
    obtain ⟨c, digit, within⟩ := List.mem_flatMap.mp there
    obtain ⟨d, small, rfl⟩ := digits c digit
    exact ⟨d, small, within⟩
  have slashless : Path.slash ∉ Utf8.encodeChars chars := by
    intro there
    obtain ⟨d, small, within⟩ := bytes _ there
    exact (encode_digitChar d small).2.1 within
  have dotless : Path.dot ∉ Utf8.encodeChars chars := by
    intro there
    obtain ⟨d, small, within⟩ := bytes _ there
    exact (encode_digitChar d small).2.2 within
  refine Path.isName_of_ne slashless ?_ ?_ ?_
  · intro none
    cases chars with
    | nil => cases length
    | cons c rest =>
      obtain ⟨d, small, rfl⟩ := digits c List.mem_cons_self
      rw [Utf8.encodeChars, List.flatMap_cons] at none
      exact (encode_digitChar d small).1 (List.append_eq_nil_iff.mp none).1
  · intro same
    simp [same] at dotless
  · intro same
    simp [same] at dotless

/-! ## Occupied directories -/

namespace Converter

variable {config : Config} {compiler : PatternCompiler} {t last : FileTree}
  {source workDir : Path} {place : Location} {events : List ActEvent}

theorem Housing.of_occupied {result : Except ConversionError Bool}
    (found : t.lookUp .existing workDir = .ok (place, .directory)) (full : t.names place ≠ [])
    (housing : Housing workDir events result)
    (answers : FileTree.surroundings.Answers t events last) :
    result = .error (.invalidInput (.workDirNotEmpty workDir)) ∧ last = t := by
  have occupied : t.isEmptyDirectory workDir = .ok false := by
    rw [FileTree.isEmptyDirectory, FileTree.list_eq_ok.mpr ⟨place, found, rfl⟩]
    simpa [FileTree.attempted, Except.map] using full
  have uninspected : ∀ preexisting after,
      ¬ FileTree.surroundings.Answers t (inspection workDir preexisting) after := by
    intro preexisting after inspected
    obtain ⟨-, new, empty⟩ := inspection_answers inspected
    cases preexisting with
    | false =>
      have there := FileTree.pathExists_eq_true.mpr ⟨place, .directory, found⟩
      simp [there] at new
    | true =>
      obtain ⟨other, found', nothing⟩ := empty rfl
      rw [found] at found'
      cases found'
      exact full nothing
  cases housing with
  | unlistable cause => cases occupied.symm.trans answers.2.1
  | occupied => exact ⟨rfl, answers.2.2⟩
  | unwritable cause => cases occupied.symm.trans answers.2.1
  | unmade preexisting | made preexisting =>
    obtain ⟨between, inspected, -⟩ := Respondent.answers_append.mp answers
    exact absurd inspected (uninspected preexisting between)

/-- A start is refused for what is in its directory once its source has been found to be fit. -/
theorem start_occupied (compiler : PatternCompiler)
    (accepts : config.pipeline.accepts source = true) (readable : t.checkReadable source = .ok ())
    (found : t.lookUp .existing workDir = .ok (place, .directory)) (full : t.names place ≠ []) :
    let p := (start { config, compiler } source workDir).perform FileTree.surroundings t
    p.value.1 = .error (.invalidInput (.workDirNotEmpty workDir)) ∧ p.state = t := by
  intro p
  obtain ⟨events, result, prepared, answers, value⟩ :=
    start_prepared FileTree.surroundings { config, compiler } source workDir t rfl
  cases prepared with
  | unsupported other => simp [accepts] at other
  | unreadable cause => cases readable.symm.trans answers.1
  | unhoused _ housing =>
    obtain ⟨same, unchanged⟩ := housing.of_occupied found full answers.2
    cases same
    exact ⟨value, unchanged⟩
  | housed _ _ housing =>
    obtain ⟨between, housed, -⟩ := Respondent.answers_append.mp answers.2
    cases (housing.of_occupied found full housed).1

/-- What is there is empty where a start is accepted. -/
theorem empty_of_started {handle : JobHandle} (there : t.pathExists workDir = true)
    (accepted : ((start { config, compiler } source workDir).perform
      FileTree.surroundings t).value.1 = .ok handle) :
    ∃ place, t.lookUp .existing workDir = .ok (place, .directory) ∧ t.names place = [] := by
  obtain ⟨events, result, prepared, answers, value⟩ :=
    start_prepared FileTree.surroundings { config, compiler } source workDir t rfl
  rw [accepted] at value
  cases prepared with
  | unsupported | unreadable | unhoused => cases value
  | housed preexisting _ housing stage =>
    obtain ⟨between, housed, -⟩ := Respondent.answers_append.mp answers.2
    obtain ⟨-, -, new, empty⟩ := housing.readied_of_ok housed
    cases preexisting with
    | false => cases there.symm.trans (new rfl)
    | true => exact empty rfl

/-- A staged copy takes nothing away. -/
theorem Staging.node?_ne_none {preexisting : Bool} {staged : Option Path}
    (there : t.node? place ≠ none)
    (staging : Staging config source workDir preexisting events (.ok staged))
    (answers : FileTree.surroundings.Answers t events last) : last.node? place ≠ none := by
  cases staging with
  | plain =>
    rw [Respondent.Answers] at answers
    rw [answers]
    exact there
  | copied name =>
    rcases answers_copy answers with ⟨cause, failed, -⟩ | ⟨made, ok, -, same⟩
    · cases failed
    · rw [Respondent.Answers] at same
      obtain ⟨origin, content, executable, goal, -, -, other, -, rfl⟩ := FileTree.copy_eq_ok ok
      rw [same, FileTree.node?_put (FileTree.ne_root other)]
      split
      · simp
      · exact there

/-- The cleaning stays in the directory. -/
theorem node?_of_cleanup {other : Location} (cleanup : Job.Cleanup workDir events)
    (here : t.lookUp .itself workDir = .ok (place, .directory))
    (outside : other ≠ place ∧ FileTree.isBelow place other = false)
    (answers : FileTree.surroundings.Answers t events last) : last.node? other = t.node? other := by
  have removed : (t.removeDirectoryAll workDir).2.node? other = t.node? other := by
    rcases FileTree.node?_removeDirectoryAll t workDir other with
      same | ⟨target, linked⟩ | ⟨place', here', inside⟩
    · exact same
    · rw [here] at linked
      cases linked
    · rw [here] at here'
      cases here'
      simp [outside] at inside
  cases cleanup with
  | absent =>
    obtain ⟨-, rfl⟩ := answers
    rfl
  | removed =>
    obtain ⟨-, -, rfl⟩ := answers
    exact removed
  | refused cause =>
    obtain ⟨-, -, rfl⟩ := answers
    exact removed

/-- Giving up a job that has only been accepted takes away from what was there before its start
just what is below its directory. -/
theorem cancelled_iff {handle : JobHandle} {other : Location} {node : Node} (wf : t.WellFormed)
    (there : t.node? other = some node) (leaf : node ≠ .directory)
    (led : (t.readied workDir).lookUp .itself workDir = .ok (place, .directory)) :
    let p := (start { config, compiler } source workDir).perform FileTree.surroundings t
    p.value.1 = .ok handle →
      (((p.value.2.cancel handle).perform FileTree.surroundings p.state).state.node? other = none ↔
        FileTree.isBelow place other = true) := by
  intro p accepted
  obtain ⟨rfl, staged, preexisting, later, value, staging, onward⟩ := start_accepted rfl accepted
  have value : p.value.2 = (register { config, compiler } source workDir staged).2 := value
  have here := (staging.hasWays onward).lookUp_directory rfl led
  have readied := (FileTree.readied_grows wf workDir).extended.nodes _ _ there
  have kept : p.state.node? other ≠ none := staging.node?_ne_none (by simp [readied]) onward
  obtain ⟨cleaning, cleanup, cleaned⟩ :=
    cancelled_cleans { config, compiler } source workDir staged p.state
  rw [value]
  constructor
  · intro gone
    by_contra aside
    have apart : other ≠ place := by
      rintro rfl
      rw [(FileTree.lookUp_eq_ok.mp led).2] at readied
      cases readied
      exact leaf rfl
    rw [node?_of_cleanup cleanup here ⟨apart, by simpa using aside⟩ cleaned] at gone
    exact kept gone
  · exact cleanup.loses here cleaned other

end Converter

/-! ## The default log -/

namespace CommandLine

open Session

/-- What the log is called, unless the configuration names another file. -/
def logName : Bytes := Utf8.encode "slidepush.log"

theorem isName_logName : Path.IsName logName := by
  constructor <;> decide

/-- The log is inside a directory if the directory that it stands in is. -/
theorem isBelow_log_iff (place root : Location) :
    FileTree.isBelow place (root ++ [logName]) = true ↔ place <+: root := by
  rw [FileTree.isBelow, Bool.and_eq_true, List.isPrefixOf_iff_prefix, List.prefix_concat_iff]
  constructor
  · rintro ⟨rfl | inside, apart⟩
    · simp at apart
    · exact inside
  · intro inside
    refine ⟨.inr inside, decide_eq_true fun same => ?_⟩
    have length := inside.length_le
    rw [← same, List.length_append, List.length_singleton] at length
    omega

/-- The log has been opened: it stands in the directory at `root`, and nothing else that is new is
a file, unless the log is a link. -/
structure LogOpen (config : Config) (before t : FileTree) (root : Location) : Prop where
  wellFormed : t.WellFormed
  houses : t.Houses (jobsRoot config) root
  log : ∃ node, t.node? (root ++ [logName]) = some node ∧ node ≠ .directory
  added : ∀ place node, t.node? place = some node → before.node? place = none →
    node = .directory ∨ place = root ++ [logName] ∨
      ∃ target, t.node? (root ++ [logName]) = some (.link target)

variable {σ : Type} {r : Respondent Inquiry Inquiry.Answer σ} {tree : σ → FileTree} {s : σ}
  {closed : Path → Option ErrorChain} {before t made last : FileTree} {root place : Location}
  {setting : Setting} {config : Config} {filter : LogFilter} {input : Path} {named : Option Path}
  {result : Except Failing Accepted}

theorem logPath_eq (writes : config.logging.writeToFile = true)
    (unnamed : config.logging.filePath = "") :
    logPath config = some ((jobsRoot config).join ⟨logName⟩) := by
  simp [logPath, writes, unnamed, jobsRoot, logName, Path.ofString]

theorem logOpen_of_createFile (grows : before.Grows t)
    (ok : t.createFile ((jobsRoot config).join ⟨logName⟩) = .ok made) :
    ∃ root, LogOpen config before made root := by
  obtain ⟨goal, executable, located, free, rfl⟩ := FileTree.createFile_eq_ok ok
  obtain ⟨root, houses⟩ := FileTree.houses_of_locate_join isName_logName located
  have other : t.node? goal ≠ some .directory := by
    rcases free with vacant | ⟨content, here⟩ <;> simp [*]
  have direct : ∀ target, t.node? goal ≠ some (.link target) := by
    rcases free with vacant | ⟨content, here⟩ <;> simp [*]
  have goal_ne := FileTree.ne_root other
  -- A link in the place of the log stays, and the file is made where it leads.
  have reached : goal = root ++ [logName] ∨
      root ++ [logName] ≠ goal ∧ ∃ target, t.node? (root ++ [logName]) = some (.link target) := by
    by_cases linked : ∃ target, t.node? (root ++ [logName]) = some (.link target)
    · obtain ⟨target, linked⟩ := linked
      refine .inr ⟨?_, target, linked⟩
      rintro rfl
      exact direct target linked
    · have plain : ∀ target, t.node? (root ++ [logName]) ≠ some (.link target) := by
        simpa using linked
      exact .inl (FileTree.locate_join isName_logName houses (.inr plain) located).2
  refine ⟨root, FileTree.createFile_wellFormed grows.wellFormed ok, ?_, ?_, ?_⟩
  · have ways : (t.put goal (.file [] executable)).HasWays t := FileTree.hasWays_put other direct
    rcases houses with ⟨empty, rfl⟩ | led
    · exact .inl ⟨empty, rfl⟩
    · exact .inr (ways.locateParts rfl led)
  · rcases reached with rfl | ⟨apart, target, linked⟩
    · exact ⟨_, by rw [FileTree.node?_put goal_ne, if_pos rfl], by simp⟩
    · exact ⟨_, by rw [FileTree.node?_put goal_ne, if_neg apart, linked], by simp⟩
  · intro place node here new
    rw [FileTree.node?_put goal_ne] at here
    split at here
    · rename_i same
      rcases reached with rfl | ⟨apart, target, linked⟩
      · exact .inr (.inl same)
      · exact .inr (.inr ⟨target, by rw [FileTree.node?_put goal_ne, if_neg apart, linked]⟩)
    · rcases grows.added place node here with old | dir
      · simp [new] at old
      · exact .inl dir

theorem leads_createFile (desk : Desk r tree closed) (path : Path) :
    Leads r tree t (inquire (.createFile path)) fun result t' =>
      result = .ok () → t.createFile path = .ok t' := by
  rintro s rfl created
  have answered := desk.creates path s
  cases making : (tree s).createFile path with
  | error cause =>
    rw [making] at answered
    have failed : (r.answer (.createFile path) s).1 = .error _ := congrArg Prod.fst answered
    cases created.symm.trans failed
  | ok made =>
    rw [making] at answered
    exact congrArg Except.ok (congrArg Prod.snd answered).symm

/-- Whatever has to be made for the log are directories, and the log itself. -/
theorem leads_openLog (desk : Desk r tree closed) (wf : t.WellFormed)
    (writes : config.logging.writeToFile = true) (unnamed : config.logging.filePath = "") :
    Leads r tree t (openLog config) fun result t' =>
      result = .ok () → ∃ root, LogOpen config t t' root := by
  rw [openLog, logPath_eq writes unnamed]
  refine .asking desk rfl ?_
  generalize ((jobsRoot config).join ⟨logName⟩).parent.getD (.ofString ".") = directory
  have grows : t.Grows ((FileTree.guarded closed).answer (.createDirAll directory) t).2 :=
    FileTree.makeDirectoryAll_grows wf directory
  cases ((FileTree.guarded closed).answer (.createDirAll directory) t).1 with
  | error cause =>
    refine .pure fun opened => ?_
    cases opened
  | ok done =>
    exact (leads_createFile desk _).mono fun result t' created opened =>
      logOpen_of_createFile grows (created opened)

/-! ## The log and the directory of a job -/

namespace LogOpen

variable (log : LogOpen config before t root)
include log

theorem isDirectory : t.node? root = some .directory := by
  obtain ⟨node, here, -⟩ := log.log
  exact log.wellFormed.parents root logName node here

theorem sited_eq : sited config t named = t := by
  rw [sited]
  split
  · rfl
  · rcases log.houses with ⟨empty, -⟩ | led
    · rw [FileTree.makeDirectoryAll_of_nil empty]
    · have there : t.isDirectory (jobsRoot config) = true :=
        FileTree.isDirectory_eq_true.mpr ⟨root, FileTree.lookUp_eq_ok.mpr ⟨led, log.isDirectory⟩⟩
      rw [FileTree.makeDirectoryAll_of_isDirectory there]

theorem starting_eq (free : closed input = none) (workDir : Path) :
    starting setting config closed input named t workDir =
      ((setting.converter config).start input workDir).perform FileTree.surroundings t := by
  rw [starting, log.sited_eq, Converter.start_guarded free]

theorem names_ne_nil (inside : place <+: root) : t.names place ≠ [] := by
  intro empty
  obtain ⟨node, here, -⟩ := log.log
  have gone := log.wellFormed.node?_below empty ((isBelow_log_iff place root).mpr inside)
  cases here.symm.trans gone

/-- A directory that has been empty is so no longer for the log, or for a directory on the way to
it. -/
theorem occupied (empty : before.names place = []) (full : t.names place ≠ []) :
    place = root ∨ (∃ name, t.node? (place ++ [name]) = some .directory) ∨
      ∃ target, t.node? (root ++ [logName]) = some (.link target) := by
  obtain ⟨name, there⟩ := List.exists_mem_of_ne_nil _ full
  obtain ⟨node, here⟩ := FileTree.mem_names_iff.mp there
  have new : before.node? (place ++ [name]) = none := by
    cases old : before.node? (place ++ [name]) with
    | none => rfl
    | some node =>
      have there := FileTree.mem_names_iff.mpr ⟨node, old⟩
      simp [empty] at there
  rcases log.added _ node here new with rfl | same | linked
  · exact .inr (.inl ⟨name, here⟩)
  · exact .inl (List.append_inj' same rfl).1
  · exact .inr (.inr linked)

end LogOpen

/-- The directory of a job is beside the log, unless the caller has named it. -/
theorem LogOpen.beside {workDir : Path} (log : LogOpen config before t root)
    (chosen : Chosen config none workDir)
    (led : (t.readied workDir).lookUp .itself workDir = .ok (place, .directory)) :
    ∃ name, Path.IsName name ∧ workDir = (jobsRoot config).join ⟨name⟩ ∧
      place = root ++ [name] := by
  obtain ⟨source, now, chosen⟩ := chosen
  have proper := isName_jobDirectoryName (fingerprint config) source now
  generalize jobDirectoryName (fingerprint config) source now = name at chosen proper
  have houses : (t.readied workDir).Houses (jobsRoot config) root :=
    FileTree.houses_extends (FileTree.readied_grows log.wellFormed workDir).extended log.houses
  obtain ⟨located, -⟩ := FileTree.lookUp_eq_ok.mp led
  generalize t.readied workDir = made at houses located
  rw [chosen] at located
  exact ⟨_, proper, chosen, (FileTree.locate_join proper houses (.inl rfl) located).2⟩

theorem LogOpen.not_inside {workDir : Path} (log : LogOpen config before t root)
    (chosen : Chosen config none workDir)
    (led : (t.readied workDir).lookUp .itself workDir = .ok (place, .directory)) :
    ¬ place <+: root := by
  obtain ⟨name, -, -, rfl⟩ := log.beside chosen led
  intro inside
  have length := inside.length_le
  rw [List.length_append, List.length_singleton] at length
  omega

/-- Such a directory is new where it has been missing. -/
theorem LogOpen.clearToStart {workDir : Path} (log : LogOpen config before t root)
    (chosen : Chosen config none workDir)
    (led : (t.readied workDir).lookUp .itself workDir = .ok (place, .directory)) :
    Converter.ClearToStart config input t workDir := by
  obtain ⟨name, proper, rfl, rfl⟩ := log.beside chosen led
  have reached := FileTree.lookUp_existing_of_itself led
  obtain ⟨located, dir⟩ := FileTree.lookUp_eq_ok.mp reached
  have extended := (FileTree.readied_grows log.wellFormed ((jobsRoot config).join ⟨name⟩)).extended
  intro missing _
  refine ⟨?_, fun empty => ?_⟩
  · intro goal located' other below
    cases located.symm.trans located'
    -- An old directory of that name would have been found before.
    have nothing : t.node? (root ++ [name]) = none := by
      cases here : t.node? (root ++ [name]) with
      | none => rfl
      | some node =>
        cases dir.symm.trans (extended.nodes _ _ here)
        have found := FileTree.lookUp_join proper log.houses
          (FileTree.houses_extends extended log.houses) log.isDirectory here located
        cases missing.symm.trans (FileTree.pathExists_eq_true.mpr ⟨_, _, found⟩)
    exact log.wellFormed.node?_below (FileTree.names_of_vacant log.wellFormed nothing) below
  · exact absurd empty (FileTree.full_of_located located)

/-- A start that is accepted although the log is inside has taken its directory for a new one. -/
theorem LogOpen.missing_of_inside {workDir : Path} {handle : JobHandle}
    (log : LogOpen config before t root)
    (led : (t.readied workDir).lookUp .itself workDir = .ok (place, .directory))
    (accepted : (((setting.converter config).start input workDir).perform FileTree.surroundings
      t).value.1 = .ok handle)
    (inside : place <+: root) : t.pathExists workDir = false := by
  by_contra there
  obtain ⟨goal, found, empty⟩ := Converter.empty_of_started (by simpa using there) accepted
  have same : t.readied workDir = t := by
    rw [FileTree.readied, FileTree.makeDirectoryAll_of_isDirectory
      (FileTree.isDirectory_eq_true.mpr ⟨goal, found⟩)]
  rw [same] at led
  cases found.symm.trans (FileTree.lookUp_existing_of_itself led)
  exact log.names_ne_nil inside empty

theorem fit_of_not_unconvertible (fit : ¬ Unconvertible config closed t input) :
    config.pipeline.accepts input = true ∧ t.checkReadable input = .ok () ∧
      closed input = none := by
  rw [Unconvertible, not_or] at fit
  refine ⟨by simpa using fit.1, FileTree.checkOpen_eq_ok.mp ?_⟩
  cases readable : t.checkOpen closed input with
  | error cause => exact absurd ⟨cause, readable⟩ fit.2
  | ok done => rfl

/-- How the log in the directory at `root` fares among the directories of jobs: `before` is the tree
before the log has been opened, and `t` after it; `result` is what becomes of a job that is to be
started then, and `last` is the tree that is left. -/
structure LogAmongJobs (setting : Setting) (config : Config) (closed : Path → Option ErrorChain)
    (input : Path) (named : Option Path) (before t : FileTree) (root : Location)
    (result : Except Failing Accepted) (last : FileTree) : Prop where
  log : LogOpen config before t root
  /-- The log is in the directories on the way to the one that it stands in, and in that one. -/
  inside_iff : ∀ place, FileTree.isBelow place (root ++ [logName]) = true ↔ place <+: root
  /-- If such a directory is there and named by the caller, the start is refused for the log. -/
  occupied : ∀ workDir place, named = some workDir →
    t.lookUp .existing workDir = .ok (place, .directory) → place <+: root →
    ¬ TurnedAway config t input → ¬ Unconvertible config closed t input →
    result = .error (.conversion (.invalidInput (.workDirNotEmpty workDir))) ∧ last = t
  chosen : ∀ a, result = .ok a → Chosen config named a.workDir
  /-- A job whose directory was there, and empty, keeps all that is old, whatever is asked later. -/
  keeps_existing : ∀ a, result = .ok a → t.pathExists a.workDir = true →
    (setting.converter config).KeepsAll input a.workDir t
  /-- Giving up a job at once takes the log away just when it is in the job's directory. -/
  loses_iff : ∀ a place, result = .ok a →
    (t.readied a.workDir).lookUp .itself a.workDir = .ok (place, .directory) →
    (((a.converter.cancel a.handle).perform FileTree.surroundings last).state.node?
      (root ++ [logName]) = none ↔ place <+: root)
  /-- Then the caller has named a path that was missing, and that leads there once it is made. -/
  missing_of_inside : ∀ a place, result = .ok a →
    (t.readied a.workDir).lookUp .itself a.workDir = .ok (place, .directory) → place <+: root →
    named = some a.workDir ∧ t.pathExists a.workDir = false
  /-- A job whose directory nobody has named keeps all that is old. -/
  keeps_unnamed : ∀ a place, result = .ok a →
    (t.readied a.workDir).lookUp .itself a.workDir = .ok (place, .directory) → named = none →
    (setting.converter config).KeepsAll input a.workDir t
  /-- A directory that was empty is so no longer if the log is in it. -/
  fills : ∀ place, before.names place = [] → place <+: root → t.names place ≠ []
  /-- Another one stays empty, unless a directory has been made in it on the way to the log, or the
  log is a link. -/
  filled : ∀ place, before.names place = [] → t.names place ≠ [] → place = root ∨
    (∃ name, t.node? (place ++ [name]) = some .directory) ∨
    ∃ target, t.node? (root ++ [logName]) = some (.link target)

theorem LogOpen.occupied_of_inside {workDir : Path} (log : LogOpen config before t root)
    (acceptance : Acceptance setting config closed input (some workDir) t result last)
    (found : t.lookUp .existing workDir = .ok (place, .directory)) (inside : place <+: root)
    (fit : ¬ TurnedAway config t input) (convertible : ¬ Unconvertible config closed t input) :
    result = .error (.conversion (.invalidInput (.workDirNotEmpty workDir))) ∧ last = t := by
  obtain ⟨accepts, readable, free⟩ := fit_of_not_unconvertible convertible
  obtain ⟨occupied, unchanged⟩ := Converter.start_occupied setting.compiler accepts readable
    found (log.names_ne_nil inside)
  cases acceptance with
  | turnedAway why away => exact absurd away fit
  | unhoused why _ unnamed => cases unnamed
  | refused _ chosen refused =>
    cases chosen
    rw [log.starting_eq free] at refused ⊢
    cases occupied.symm.trans refused
    exact ⟨rfl, unchanged⟩
  | accepted _ chosen started =>
    cases chosen
    rw [log.starting_eq free] at started
    cases occupied.symm.trans (congrArg Prod.fst started)

/-- A job that has been accepted has been started on the tree with the log. -/
theorem LogOpen.started {a : Accepted} (log : LogOpen config before t root)
    (acceptance : Acceptance setting config closed input named t (.ok a) last) :
    Chosen config named a.workDir ∧
      let p := ((setting.converter config).start input a.workDir).perform FileTree.surroundings t
      p.value = (.ok a.handle, a.converter) ∧ last = p.state := by
  cases acceptance with
  | accepted fit chosen started =>
    have convertible : ¬ Unconvertible config closed t input := by
      intro unfit
      obtain ⟨⟨error, refused⟩, -⟩ := start_refused setting unfit a.workDir
      rw [starting, log.sited_eq] at started
      rw [started] at refused
      cases refused
    obtain ⟨-, -, free⟩ := fit_of_not_unconvertible convertible
    rw [log.starting_eq free] at started ⊢
    exact ⟨chosen, started, rfl⟩

/-- The log stands in the root of all jobs, so it is in the directory that a job is started with
exactly if that directory is the root or above it. A directory that the caller has not named never
is, and then all is kept whatever is asked later. If such a directory is there then the start is
refused for the log in it, though it may have been missing or empty before. If its path was missing
and leads there once it is made, then giving up the job takes the log away. A directory that has
been empty stays so, unless it is the root, a directory is made in it on the way to the root, or the
log is a link. -/
theorem default_log_inside_iff_above_root (setting : Setting) (filter : LogFilter) (input : Path)
    (named : Option Path) (desk : Desk r tree closed) (wf : (tree s).WellFormed)
    (writes : config.logging.writeToFile = true) (unnamed : config.logging.filePath = "")
    (opened : ((openLog config).perform r s).value = .ok ()) :
    let opening := (openLog config).perform r s
    let accepting := (accept setting config filter input named).perform r opening.state
    ∃ root, LogAmongJobs setting config closed input named (tree s) (tree opening.state) root
      accepting.value (tree accepting.state) := by
  intro opening accepting
  obtain ⟨root, log⟩ := leads_openLog desk wf writes unnamed s rfl opened
  have acceptance : Acceptance setting config closed input named (tree opening.state)
      accepting.value (tree accepting.state) := leads_accept desk _ rfl
  change LogOpen config (tree s) (tree opening.state) root at log
  generalize tree opening.state = t, accepting.value = result, tree accepting.state = last at *
  refine ⟨root, log, fun place => isBelow_log_iff place root, ?occupied, ?chosen, ?existing, ?loses,
    ?missing, ?unnamed, fun place _ => log.names_ne_nil, fun place => log.occupied⟩
  case occupied =>
    rintro workDir place rfl found inside fit convertible
    exact log.occupied_of_inside acceptance found inside fit convertible
  case chosen =>
    rintro a rfl
    exact (log.started acceptance).1
  case existing =>
    rintro a rfl there
    refine Converter.keepsAll_of_clear log.wellFormed rfl fun missing _ => ?_
    cases there.symm.trans missing
  case loses =>
    rintro a place rfl led
    obtain ⟨chosen, started, rfl⟩ := log.started acceptance
    obtain ⟨node, here, leaf⟩ := log.log
    have lost := Converter.cancelled_iff log.wellFormed here leaf led (congrArg Prod.fst started)
    rw [isBelow_log_iff] at lost
    rw [← lost]
    have same : a.converter = _ := (congrArg Prod.snd started).symm
    rw [same]
    rfl
  case missing =>
    rintro a place rfl led inside
    obtain ⟨chosen, started, -⟩ := log.started acceptance
    refine ⟨?_, log.missing_of_inside led (congrArg Prod.fst started) inside⟩
    cases named with
    | none => exact absurd inside (log.not_inside chosen led)
    | some path => rw [chosen]
  case unnamed =>
    rintro a place rfl led rfl
    refine Converter.keepsAll_of_clear log.wellFormed rfl ?_
    exact log.clearToStart (log.started acceptance).1 led

/-- The root of all jobs was missing, and is refused for the log that has been opened in it. -/
theorem named_root_refused_for_log :
    let talk := Path.ofString "talk.odp"
    let root := Path.ofString ".slidepush-work"
    let config : Config := { logging := { writeToFile := true } }
    let m : Machine := { tree := FileTree.put {} [talk.bytes] (.file [1] false) }
    let opening := (openLog config).perform Machine.respondent m
    let accepting := (accept {} config (.ofString "warn") talk (some root)).perform
      Machine.respondent opening.state
    opening.value = .ok () ∧ m.tree.WellFormed ∧ m.tree.pathExists root = false ∧
      LogOpen config m.tree opening.state.tree [root.bytes] ∧
      accepting.value = .error (.conversion (.invalidInput (.workDirNotEmpty root))) := by
  intro talk root config m opening accepting
  have opened : opening.value = .ok () := by decide +kernel
  have proper : Path.IsName talk.bytes := by decide
  have wf : m.tree.WellFormed := FileTree.wellFormed_single proper _
  have located : opening.state.tree.locate .existing root = .ok [root.bytes] := by decide +kernel
  have dir : opening.state.tree.node? [root.bytes] = some .directory := by decide +kernel
  have readable : opening.state.tree.checkOpen (fun _ => none) talk = .ok () := by decide +kernel
  have fit : ¬ TurnedAway config opening.state.tree talk := by decide +kernel
  have convertible : ¬ Unconvertible config (fun _ => none) opening.state.tree talk := by
    rintro (other | ⟨cause, unreadable⟩)
    · have accepts : config.pipeline.accepts talk = true := by decide
      cases accepts.symm.trans other
    · cases readable.symm.trans unreadable
  obtain ⟨place, fares⟩ := default_log_inside_iff_above_root {} (.ofString "warn") talk (some root)
    desk_machine wf rfl rfl opened
  have same : place = [root.bytes] := by
    have full : (jobsRoot config).bytes ≠ [] := by decide
    rcases fares.log.houses with ⟨empty, -⟩ | led
    · exact absurd empty full
    · cases located.symm.trans led
      rfl
  subst same
  have found := FileTree.lookUp_eq_ok.mpr ⟨located, dir⟩
  have refused := fares.occupied root _ rfl found (List.prefix_refl _) fit convertible
  exact ⟨opened, wf, by decide, fares.log, refused.1⟩

end CommandLine

end SlideConverter

import SlideConverter.Proofs.CommandLine.Desk
import SlideConverter.Proofs.CommandLine.ExitCode
import SlideConverter.Proofs.Conversion.Preservation

/-!
# What a conversion that is turned down leaves behind

An input can be turned down for what it is: for its name, because it is missing, for its type, or
because it cannot be read. The first two are seen before anything is made. The last two are left to
the start of the job, and by then the directory for all jobs has been made, unless the caller has
named a directory for this one.
-/

namespace SlideConverter

open Text

namespace FileTree

variable {t made : FileTree} {path : Path}

theorem makeDirectoryAll_eq_self_iff (ok : (t.makeDirectoryAll path).1 = .ok ()) :
    (t.makeDirectoryAll path).2 = t ↔ path.bytes = [] ∨ t.isDirectory path = true := by
  constructor
  · intro same
    by_cases empty : path.bytes = []
    · exact .inl empty
    · have there := isDirectory_of_makeDirectoryAll empty ok
      rw [same] at there
      exact .inr there
  · rintro (empty | there)
    · rw [makeDirectoryAll_of_nil empty]
    · rw [makeDirectoryAll_of_isDirectory there]

/-- What is there is as readable as before when more is there. -/
theorem checkOpen_extends (extended : made.Extends t) (there : t.pathExists path = true)
    (closed : Path → Option ErrorChain) : made.checkOpen closed path = t.checkOpen closed path := by
  obtain ⟨place, node, found⟩ := pathExists_eq_true.mp there
  rw [checkOpen, checkOpen, checkReadable, checkReadable, found, lookUp_extends extended rfl found]

end FileTree

namespace CommandLine

open Session

/-- What is wrong with the input is seen by the start of a job: its type, or that it is no file, or
that it cannot be opened. -/
def Unconvertible (config : Config) (closed : Path → Option ErrorChain) (t : FileTree)
    (input : Path) : Prop :=
  config.pipeline.accepts input = false ∨ ∃ cause, t.checkOpen closed input = .error cause

/-- The tree after an input has been turned down. -/
def leftBehind (config : Config) (t : FileTree) (input : Path) (named : Option Path) : FileTree :=
  if TurnedAway config t input then t else sited config t named

variable {σ : Type} {r : Respondent Inquiry Inquiry.Answer σ} {tree : σ → FileTree} {s : σ}
  {closed : Path → Option ErrorChain} {t : FileTree} {setting : Setting} {a : Arguments}
  {config : Config} {filter : LogFilter} {input workDir : Path} {named : Option Path}

theorem sited_grows (wf : t.WellFormed) : t.Grows (sited config t named) := by
  rw [sited]
  split
  · exact .refl wf
  · exact FileTree.makeDirectoryAll_grows wf _

theorem leftBehind_grows (wf : t.WellFormed) : t.Grows (leftBehind config t input named) := by
  rw [leftBehind]
  split
  · exact .refl wf
  · exact sited_grows wf

theorem leftBehind_eq_self_iff (ok : (t.makeDirectoryAll (jobsRoot config)).1 = .ok ()) :
    leftBehind config t input named = t ↔ TurnedAway config t input ∨ named.isSome = true ∨
      (jobsRoot config).bytes = [] ∨ t.isDirectory (jobsRoot config) = true := by
  rw [leftBehind, sited]
  split
  · simp [*]
  · split
    · simp [*]
    · simp [*, FileTree.makeDirectoryAll_eq_self_iff ok]

/-- The input is looked at before the working directory, and changes nothing by that. -/
theorem start_refused (setting : Setting) (unfit : Unconvertible config closed t input)
    (workDir : Path) :
    let p := ((setting.converter config).start input workDir).perform (FileTree.guarded closed) t
    (∃ error, p.value.1 = .error error) ∧ p.state = t := by
  intro p
  obtain ⟨events, result, prepared, answers, value⟩ := Converter.start_prepared
    (FileTree.guarded closed) (setting.converter config) input workDir t rfl
  have readable : config.pipeline.accepts input = true → t.checkOpen closed input ≠ .ok () := by
    intro accepts
    rcases unfit with other | ⟨cause, unreadable⟩
    · simp [accepts] at other
    · simp [unreadable]
  cases prepared with
  | unsupported => exact ⟨⟨_, value⟩, answers⟩
  | unreadable => exact ⟨⟨_, value⟩, answers.2⟩
  | unhoused accepts | housed _ accepts => exact absurd answers.1 (readable accepts)

/-- An input that is unfit is turned down, and the tree is as it was but for the root. -/
theorem leads_accept_unfit (desk : Desk r tree closed) (wf : t.WellFormed)
    (unfit : TurnedAway config t input ∨ Unconvertible config closed t input) :
    Leads r tree t (accept setting config filter input named) fun result t' =>
      (∃ why, result = .error why) ∧ t' = leftBehind config t input named := by
  refine (leads_accept desk).mono fun result t' acceptance => ?_
  -- The root may have been made by then, but the input is still what it was.
  have later : ¬ TurnedAway config t input →
      Unconvertible config closed (sited config t named) input := by
    intro fit
    have there : t.pathExists input = true := by
      by_contra absent
      exact fit (.inr (by simpa using absent))
    have extended : (sited config t named).Extends t := (sited_grows wf).extended
    rw [Unconvertible, FileTree.checkOpen_extends extended there]
    exact unfit.resolve_left fit
  cases acceptance with
  | turnedAway why away => exact ⟨⟨why, rfl⟩, by rw [leftBehind, if_pos away]⟩
  | unhoused why fit => exact ⟨⟨why, rfl⟩, by rw [leftBehind, if_neg fit]⟩
  | @refused workDir error fit _ _ =>
    refine ⟨⟨_, rfl⟩, ?_⟩
    rw [leftBehind, if_neg fit]
    exact (start_refused setting (later fit) workDir).2
  | @accepted a fit _ started =>
    obtain ⟨⟨error, refused⟩, -⟩ := start_refused setting (later fit) a.workDir
    rw [← starting, started] at refused
    cases refused

/-- With no log to open, a conversion that is turned down after the configuration has been read
does nothing but say so. -/
theorem perform_of_turnedDown (asked : a.command = .convert input named)
    (loaded : ((loadConfig a.config).perform r s).value = .ok config)
    (unlogged : config.logging.writeToFile = false) {why : Failing}
    (turned : ((accept setting config (setting.filter a config) input named).perform r
      ((loadConfig a.config).perform r s).state).value = .error why) :
    let loading := (loadConfig a.config).perform r s
    let accepting :=
      (accept setting config (setting.filter a config) input named).perform r loading.state
    let concluding := (conclude (setting.filter a config) (.error why)).perform r accepting.state
    (runArguments setting a).perform r s = ⟨concluding.value, concluding.state,
      loading.events ++ (accepting.events ++ concluding.events)⟩ := by
  have opened : openLog config = pure (.ok ()) := by rw [openLog, logPath, unlogged]; rfl
  have opening : ∀ s', (openLog config).perform r s' = ⟨.ok (), s', []⟩ := by
    intro s'
    rw [opened]
    rfl
  intro loading accepting concluding
  simp only [runArguments, Dialogue.perform_bind, loaded, opening, asked, CommandLine.perform,
    convert, turned]
  simp [Dialogue.perform, pure, loading, accepting, concluding]

/-- A conversion that turns its input down leaves the tree as it was, except that the directory for
all jobs is made before the type of the input and its content are looked at. -/
theorem rejected_input_makes_only_root (setting : Setting) (desk : Desk r tree closed)
    (asked : a.command = .convert input named)
    (loaded : ((loadConfig a.config).perform r s).value = .ok config)
    (unlogged : config.logging.writeToFile = false) (wf : (tree s).WellFormed)
    (unfit : TurnedAway config (tree s) input ∨ Unconvertible config closed (tree s) input) :
    let t := tree s
    let p := (runArguments setting a).perform r s
    (∃ why, Goes setting a input named p.events (some (config, .turnedDown why))) ∧ p.value = 1 ∧
    tree p.state = leftBehind config t input named ∧ t.Grows (tree p.state) ∧
    ((t.makeDirectoryAll (jobsRoot config)).1 = .ok () →
      (tree p.state = t ↔ TurnedAway config t input ∨ named.isSome = true ∨
        (jobsRoot config).bytes = [] ∨ t.isDirectory (jobsRoot config) = true)) := by
  intro t p
  let loading := (loadConfig a.config).perform r s
  let accepting :=
    (accept setting config (setting.filter a config) input named).perform r loading.state
  have kept : tree loading.state = t := leads_loadConfig desk a.config s rfl
  obtain ⟨⟨why, turned⟩, left⟩ : (∃ why, accepting.value = .error why) ∧
      tree accepting.state = leftBehind config t input named :=
    leads_accept_unfit desk wf unfit _ kept
  have performed : p = _ := perform_of_turnedDown asked loaded unlogged turned
  have goes : Goes setting a input named p.events (some (config, .turnedDown why)) := by
    have load : (loadConfig a.config).Course loading.events (.ok config) :=
      loaded ▸ (loadConfig a.config).perform_course r s
    have opened : (openLog config).Course [] (.ok ()) := by
      rw [openLog, logPath, unlogged]
      exact ⟨rfl, rfl⟩
    have accepts : (accept setting config (setting.filter a config) input named).Course
        accepting.events (.error why) := turned ▸ Dialogue.perform_course r _ _
    have ready := Ready.intro load opened
    rw [List.append_nil] at ready
    rw [performed]
    exact .converted ready (.turnedDown accepts) (Dialogue.perform_course _ _ _)
  have result : tree p.state = leftBehind config t input named := by
    rw [performed]
    exact (leads_conclude (setting.filter a config) (.error why) _ rfl).trans left
  refine ⟨⟨why, goes⟩, ?_, result, ?_, ?_⟩
  · have course := (runArguments setting a).perform_course r s
    exact Dialogue.course_unique course ((goes_course asked).mpr ⟨_, goes, rfl⟩)
  · rw [result]
    exact leftBehind_grows wf
  · intro ok
    rw [result]
    exact leftBehind_eq_self_iff ok

/-- Notes are no presentation, and a deck may be closed to its reader. When that has been said there
is a directory beside them. -/
theorem root_made_for_rejected_inputs :
    let notes := Path.ofString "notes.txt"
    let deck := Path.ofString "deck.pdf"
    let root := Path.ofString ".slidepush-work"
    let locked : Path → Option ErrorChain := fun path =>
      if path = deck then some ⟨["open deck.pdf", "Permission denied (os error 13)"]⟩ else none
    let m (path : Path) : Machine := { tree := FileTree.put {} [path.bytes] (.file [1] false) }
    let a (path : Path) : Arguments := { command := .convert path none }
    let guarded := guarding locked Machine.respondent Machine.tree
    let p := (runArguments {} (a notes)).perform Machine.respondent (m notes)
    let q := (runArguments {} (a deck)).perform guarded (m deck)
    (((loadConfig none).perform Machine.respondent (m notes)).value = .ok {} ∧
      (m notes).tree.WellFormed ∧ Unconvertible {} (fun _ => none) (m notes).tree notes ∧
      p.value = 1 ∧ (∃ why, Goes {} (a notes) notes none p.events (some ({}, .turnedDown why))) ∧
      (m notes).tree.node? [root.bytes] = none ∧
      p.state.tree.node? [root.bytes] = some .directory) ∧
    ((m deck).tree.checkReadable deck = .ok () ∧
      Unconvertible {} locked (m deck).tree deck ∧ q.value = 1 ∧
      (∃ why, Goes {} (a deck) deck none q.events (some ({}, .turnedDown why))) ∧
      (m deck).tree.node? [root.bytes] = none ∧
      q.state.tree.node? [root.bytes] = some .directory) := by
  intro notes deck root locked m a guarded p q
  have wf : ∀ path : Path, Path.IsName path.bytes → (m path).tree.WellFormed :=
    fun path proper => FileTree.wellFormed_single proper _
  constructor
  · have loaded : ((loadConfig none).perform Machine.respondent (m notes)).value = .ok {} := by rfl
    have unfit : Unconvertible {} (fun _ => none) (m notes).tree notes := .inl (by decide)
    obtain ⟨turned, code, left, -, -⟩ := rejected_input_makes_only_root {} desk_machine
      (a := a notes) rfl loaded rfl (wf notes (by decide)) (.inr unfit)
    refine ⟨loaded, wf notes (by decide), unfit, code, turned, by decide, ?_⟩
    rw [left]
    decide
  · have loaded : ((loadConfig none).perform guarded (m deck)).value = .ok {} := by rfl
    have shut : (m deck).tree.checkOpen locked deck =
        .error ⟨["open deck.pdf", "Permission denied (os error 13)"]⟩ := by decide
    have unfit : Unconvertible {} locked (m deck).tree deck := .inr ⟨_, shut⟩
    obtain ⟨turned, code, left, -, -⟩ := rejected_input_makes_only_root {}
      desk_machine.guarding (a := a deck) rfl loaded rfl (wf deck (by decide)) (.inr unfit)
    refine ⟨by decide, unfit, code, turned, by decide, ?_⟩
    rw [left]
    decide

end CommandLine

end SlideConverter

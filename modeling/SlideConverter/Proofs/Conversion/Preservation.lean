import SlideConverter.Proofs.Conversion.Cleanup
import SlideConverter.Proofs.FileTree.Reply

/-!
# What was there before

A start looks whether its working directory exists, and makes it otherwise. What has been made
is taken for new, but a path to something missing can lead, once that has been made, to a
directory with old things in it (`missing/..` is the current directory). If there is nothing
old in the directory then all that was there before a start survives whatever is asked
afterwards, with the directory itself as the only exception; and if there is something then
giving up the job removes it. The empty path leads nowhere and is never removed, but the staged
copy of a source goes to the current directory then, in place of a file of that name.
-/

namespace SlideConverter

open Text

namespace FileTree

/-- The tree once the working directory of a start has been made. -/
def readied (t : FileTree) (workDir : Path) : FileTree := (t.makeDirectoryAll workDir).2

/-- Nothing old is below the directory that `workDir` leads to. -/
def IsClear (t : FileTree) (workDir : Path) : Prop :=
  ∀ place, (t.readied workDir).locate .existing workDir = .ok place →
    ∀ other, isBelow place other = true → t.node? other = none

/-- At `place` is the working directory itself: a link, or a directory with nothing old in it. -/
def IsWorkDir (t : FileTree) (workDir : Path) (place : Location) (node : Node) : Prop :=
  (t.readied workDir).locate .itself workDir = .ok place ∧
    ((∃ target, node = .link target) ∨
      node = .directory ∧ ∀ other, isBelow place other = true → t.node? other = none)

/-- All that is in `t` is in `now` as well, but for the working directory itself. -/
def Survives (t : FileTree) (workDir : Path) (now : FileTree) : Prop :=
  ∀ place node, t.node? place = some node →
    now.node? place = some node ∨ t.IsWorkDir workDir place node

/-- Tools may write what they like inside the working directory. The directories there that only
the start has made, for the path to lead through them, they leave alone. -/
def OpenToTools (t : FileTree) (workDir : Path) (other : Location) : Prop :=
  (∃ place, (t.readied workDir).locate .existing workDir = .ok place ∧
    isBelow place other = true) ∧
  (t.node? other = none → (t.readied workDir).node? other = none)

/-- Nothing is written outside `inside`, and what is written leaves a well-formed tree. -/
structure WrittenInside (inside : Location → Prop) (before after : FileTree) : Prop where
  current : after.current = before.current
  nodes : ∀ place, ¬ inside place → after.node? place = before.node? place
  wellFormed : before.WellFormed → after.WellFormed

/-- The place of a file in the working directory where there was no file before. -/
def Spare (t : FileTree) (workDir path : Path) : Prop :=
  ∃ name place, path = workDir.join ⟨name⟩ ∧ Path.IsName name ∧
    (t.readied workDir).Houses workDir place ∧
    ((t.readied workDir).node? (place ++ [name]) = none ∨
      (t.readied workDir).node? (place ++ [name]) = some .directory)

/-- A working directory that a job can have without harm. -/
structure Prepared (t : FileTree) (workDir : Path) : Prop where
  wellFormed : t.WellFormed
  clear : t.IsClear workDir
  there : workDir.bytes = [] ∨
    ∃ place, (t.readied workDir).lookUp .existing workDir = .ok (place, .directory)

/-- A tree in which a job with that working directory can be at work. -/
structure Holds (t : FileTree) (workDir : Path) (now : FileTree) : Prop where
  extended : now.Extends (t.readied workDir)
  wellFormed : now.WellFormed

variable {t now after : FileTree} {workDir path : Path} {inside : Location → Prop}
  {place other : Location} {node : Node}

theorem readied_grows (wf : t.WellFormed) (workDir : Path) : Grows t (t.readied workDir) :=
  makeDirectoryAll_grows wf workDir

theorem Extends.survives (extended : now.Extends t) : t.Survives workDir now :=
  fun place node here => .inl (extended.nodes place node here)

theorem Holds.survives (wf : t.WellFormed) (holds : t.Holds workDir now) :
    t.Survives workDir now :=
  (holds.extended.trans (readied_grows wf workDir).extended).survives

theorem lookUp_of_nil {ending : Ending} (empty : path.bytes = []) :
    t.lookUp ending path = .error .missing := by
  simp [lookUp, locate, locateParts, checkPath, empty, bind, Except.bind]

theorem OpenToTools.vacant (clear : t.IsClear workDir) (opened : t.OpenToTools workDir other) :
    (t.readied workDir).node? other = none := by
  obtain ⟨⟨place, located, below⟩, made⟩ := opened
  exact made (clear place located other below)

/-! ## Others write -/

theorem WrittenInside.holds (written : WrittenInside inside now after)
    (free : ∀ other, inside other → (t.readied workDir).node? other = none)
    (holds : t.Holds workDir now) : t.Holds workDir after := by
  refine ⟨⟨written.current.trans holds.extended.current, ?_⟩, written.wellFormed holds.wellFormed⟩
  intro place node here
  rw [written.nodes place]
  · exact holds.extended.nodes place node here
  · intro opened
    rw [free place opened] at here
    cases here

theorem WrittenInside.survives (wf : t.WellFormed) (written : WrittenInside inside now after)
    (free : ∀ other, inside other → (t.readied workDir).node? other = none)
    (survives : t.Survives workDir now) : t.Survives workDir after := by
  intro place node here
  rw [written.nodes place]
  · exact survives place node here
  · intro opened
    have kept := (readied_grows wf workDir).extended.nodes place node here
    rw [free place opened] at kept
    cases kept

/-! ## Removing -/

theorem Holds.removeFile {made : FileTree} (holds : t.Holds workDir now)
    (spare : t.Spare workDir path) (ok : now.removeFile path = .ok made) :
    t.Holds workDir made := by
  obtain ⟨name, place, rfl, proper, houses, vacant⟩ := spare
  obtain ⟨leaf, rfl⟩ := removeFile_join proper (houses_extends holds.extended houses) ok
  refine ⟨holds.extended.erase ?_, holds.wellFormed.erase leaf⟩
  rcases vacant with vacant | dir
  · exact vacant
  · exact absurd (holds.extended.nodes _ _ dir) leaf

/-- In the working directory there was nothing before, so what is there now is a directory made
on the way. -/
theorem Prepared.spare {name : Bytes} (prepared : t.Prepared workDir) (proper : Path.IsName name)
    (led : (t.readied workDir).lookUp .existing workDir = .ok (place, .directory)) :
    t.Spare workDir (workDir.join ⟨name⟩) := by
  obtain ⟨located, -⟩ := lookUp_eq_ok.mp led
  refine ⟨name, place, rfl, proper, .inr located, ?_⟩
  cases there : (t.readied workDir).node? (place ++ [name]) with
  | none => exact .inl rfl
  | some node =>
    have new := prepared.clear place located (place ++ [name]) (isBelow_child place name)
    rcases (readied_grows prepared.wellFormed workDir).added _ _ there with old | rfl
    · rw [new] at old
      cases old
    · exact .inr rfl

theorem Holds.copy {source : Path} {made : FileTree} (wf : t.WellFormed)
    (spare : t.Spare workDir path) (ok : (t.readied workDir).copy source path = .ok made) :
    t.Holds workDir made := by
  obtain ⟨name, place, rfl, proper, houses, vacant⟩ := spare
  obtain ⟨origin, content, executable, goal, -, located, other, -, rfl⟩ := copy_eq_ok ok
  have direct : ∀ target, (t.readied workDir).node? (place ++ [name]) ≠ some (.link target) := by
    intro target linked
    rcases vacant with vacant | dir
    · simp [linked] at vacant
    · simp [linked] at dir
  obtain ⟨inside, rfl⟩ := locate_join proper houses (.inr direct) located
  have vacant := vacant.resolve_right other
  have free : (t.readied workDir).IsFree (place ++ [name]) :=
    ⟨vacant, place, name, rfl, inside, proper⟩
  exact ⟨extends_put vacant, free.wellFormed (readied_grows wf workDir).wellFormed⟩

theorem Prepared.spare_of_listed {name : Bytes} (prepared : t.Prepared workDir)
    (holds : t.Holds workDir now) (found : now.lookUp .existing workDir = .ok (place, .directory))
    (here : now.node? (place ++ [name]) = some node) :
    t.Spare workDir (workDir.join ⟨name⟩) := by
  have proper := holds.wellFormed.names place name node here
  rcases prepared.there with empty | ⟨goal, led⟩
  · rw [lookUp_of_nil empty] at found
    cases found
  · exact prepared.spare proper led

theorem Prepared.removeDirectoryAll (prepared : t.Prepared workDir)
    (holds : t.Holds workDir now) : t.Survives workDir (now.removeDirectoryAll workDir).2 := by
  intro place node here
  have grows := readied_grows prepared.wellFormed workDir
  have kept := (holds.extended.trans grows.extended).nodes place node here
  rcases prepared.there with empty | ⟨goal, led⟩
  · rcases node?_removeDirectoryAll now workDir place with same | ⟨_, found⟩ | ⟨_, found, -⟩
    · exact .inl (same.trans kept)
    · simp [lookUp_of_nil empty] at found
    · simp [lookUp_of_nil empty] at found
  · obtain ⟨located, -⟩ := lookUp_eq_ok.mp led
    -- What the path names is the same as when the directory had just been made.
    have itself : ∀ {place node}, now.lookUp .itself workDir = .ok (place, node) →
        (t.readied workDir).locate .itself workDir = .ok place := by
      intro place node found
      obtain ⟨goal', node', first⟩ := lookUp_itself_of_existing led
      have same := lookUp_extends holds.extended rfl first
      rw [found] at same
      cases same
      exact (lookUp_eq_ok.mp first).1
    rcases node?_removeDirectoryAll now workDir place with
      same | ⟨target, found⟩ | ⟨goal', found, removed⟩
    · exact .inl (same.trans kept)
    · obtain ⟨-, linked⟩ := lookUp_eq_ok.mp found
      rw [kept] at linked
      cases linked
      exact .inr ⟨itself found, .inl ⟨target, rfl⟩⟩
    · have same := lookUp_extends holds.extended rfl led
      rw [lookUp_existing_of_itself found] at same
      cases same
      have nothing := prepared.clear goal located
      rcases removed with rfl | below
      · obtain ⟨-, dir⟩ := lookUp_eq_ok.mp found
        rw [kept] at dir
        cases dir
        exact .inr ⟨itself found, .inr ⟨rfl, nothing⟩⟩
      · rw [nothing place below] at here
        cases here

end FileTree

open FileTree (WrittenInside)

/-! ## A job at work -/

section Calls

variable {σ : Type} {r : Surroundings σ} {tree : σ → FileTree} {inside : Location → Prop}
  {t now : FileTree} {workDir path : Path} {s s' : σ} {events : List ActEvent} {config : Config}

/-- Surroundings with a disk to which others write only where nothing is once the working
directory has been made. -/
structure Considerate (r : Surroundings σ) (tree : σ → FileTree) (inside : Location → Prop)
    (t : FileTree) (workDir : Path) : Prop where
  wellFormed : t.WellFormed
  onDisk : OnDisk r tree (WrittenInside inside)
  free : ∀ other, inside other → (t.readied workDir).node? other = none

namespace Job

variable {job job' : Job}

/-- An active job has a working directory without anything old in it, and knows of no file that
is not its own. -/
structure Standing (t : FileTree) (workDir : Path) (job : Job) (now : FileTree) : Prop where
  prepared : t.Prepared workDir
  holds : t.Holds workDir now
  place : job.workDir = workDir
  spare : ∀ path, job.intermediate = some path → t.Spare workDir path

def Fares (t : FileTree) (workDir : Path) (job : Job) (now : FileTree) : Prop :=
  t.Survives workDir now ∧ (job.state.isTerminal = false → job.Standing t workDir now)

/-- The only file that a step removes is the one that the job holds. -/
theorem Move.intermediate_of_removed {fault : Option Fault} {answer : Reply Unit}
    (move : Move config job events job' fault)
    (removed : .asked (.removeFile path) answer ∈ events) : job.intermediate = some path := by
  cases move with
  | office _ _ launch => cases launch <;> simp at removed
  | raster _ _ _ launch => cases launch <;> simp at removed
  | noTool | waitRefused | atWork => simp at removed
  | badExit => simp [exitEvents] at removed
  | converted tool exit time _ _ _ rest =>
    cases rest with
    | listingFailed | missing => simp [exitEvents] at removed
    | found _ _ _ launch => cases launch <;> simp [exitEvents] at removed
  | rasterized tool exit time _ _ _ rest =>
    cases rest with
    | kept => simp [exitEvents] at removed
    | removed path' _ known =>
      obtain ⟨rfl, -⟩ : path = path' ∧ answer = .ok () := by simpa [exitEvents] using removed
      exact known
    | removalFailed path' cause _ known =>
      obtain ⟨rfl, -⟩ : path = path' ∧ answer = .error cause := by
        simpa [exitEvents] using removed
      exact known

/-- A step comes to know of a file only by a listing of the working directory. -/
theorem Move.intermediate {fault : Option Fault} (move : Move config job events job' fault)
    (known : job'.intermediate = some path) : job.intermediate = some path ∨
      ∃ entries, .asked (.listDir job.workDir) (.ok entries) ∈ events ∧ path ∈ entries := by
  cases move with
  | office _ _ launch => cases launch <;> exact .inl known
  | raster _ _ _ launch => cases launch <;> exact .inl known
  | noTool | waitRefused | atWork | badExit => exact .inl known
  | converted tool exit time _ _ _ rest =>
    cases rest with
    | listingFailed | missing => exact .inl known
    | found entries path' least launch =>
      have same : path = path' := by
        cases launch <;> simpa [inState, hold, eq_comm] using known
      rw [same]
      refine .inr ⟨entries, ?_, (leastIntermediate_eq_some least).listed⟩
      simp [release]
  | rasterized tool exit time _ _ _ rest =>
    cases rest with
    | kept => exact .inl known
    | removed | removalFailed => cases known

/-- Killing is nothing to the disk. -/
theorem Kill.ofDisk_eq_false {question : Question} {answer : question.Answer}
    (kill : Kill job events job') (asked : .asked question answer ∈ events) :
    question.ofDisk = false := by
  cases kill with
  | free => cases asked
  | killed tool time held =>
    simp only [List.mem_cons, List.not_mem_nil, or_false] at asked
    rcases asked with same | same <;> cases same <;> rfl
  | refused tool cause time held =>
    simp only [List.mem_cons, List.not_mem_nil, or_false] at asked
    rcases asked with same | same | same <;> cases same <;> rfl

theorem Standing.fares (standing : job.Standing t workDir now) : job.Fares t workDir now :=
  ⟨standing.holds.survives standing.prepared.wellFormed, fun _ => standing⟩

theorem Fares.of_terminal (survives : t.Survives workDir now)
    (ended : job.state.isTerminal = true) : job.Fares t workDir now :=
  ⟨survives, fun active => by simp [ended] at active⟩

theorem Fares.written {after : FileTree} (site : Considerate r tree inside t workDir)
    (written : WrittenInside inside now after) (fares : job.Fares t workDir now) :
    job.Fares t workDir after := by
  refine ⟨written.survives site.wellFormed site.free fares.1, ?_⟩
  intro active
  have standing := fares.2 active
  exact { standing with holds := written.holds site.free standing.holds }

theorem Move.standing {fault : Option Fault} (site : Considerate r tree inside t workDir)
    (move : Move config job events job' fault) (answers : r.Answers s events s')
    (standing : job.Standing t workDir (tree s)) : job'.Standing t workDir (tree s') := by
  have kept : t.Holds workDir (tree s') ∧ ∀ question answer,
      .asked question answer ∈ events → question.ofDisk = true →
        ∃ now, t.Holds workDir now ∧ (FileTree.answer question now).1 = answer := by
    refine site.onDisk.keeps (fun _ _ written => written.holds site.free) ?_ answers
      standing.holds
    intro question answer there ofDisk now holds _
    cases move.working _ there with
    | launch | wait | clock => cases ofDisk
    | list => exact holds
    | discard path =>
      have spare := standing.spare path (move.intermediate_of_removed there)
      rcases FileTree.outcome_cases now (now.removeFile path) with same | ok
      · have unchanged : (FileTree.answer (.removeFile path) now).2 = now := same
        rw [unchanged]
        exact holds
      · exact holds.removeFile spare ok
  obtain ⟨last, each⟩ := kept
  refine ⟨standing.prepared, last, move.identity.workDir.trans standing.place, ?_⟩
  intro path known
  rcases move.intermediate known with before | ⟨entries, listed, within⟩
  · exact standing.spare path before
  · obtain ⟨now, holds, listing⟩ := each _ _ listed rfl
    obtain ⟨place, found, named⟩ := FileTree.listDirectory_eq_ok listing
    obtain ⟨name, node, rfl, here⟩ := named path within
    rw [standing.place] at found ⊢
    exact standing.prepared.spare_of_listed holds found here

theorem Cleanup.survives (site : Considerate r tree inside t workDir)
    (prepared : t.Prepared workDir) (cleanup : Cleanup workDir events)
    (answers : r.Answers s events s') (holds : t.Holds workDir (tree s)) :
    t.Survives workDir (tree s') := by
  have looked : t.Holds workDir (tree (r.answer (.pathExists workDir) s).2) := by
    obtain ⟨now, written, -, left⟩ := site.onDisk.disk (.pathExists workDir) s rfl
    rw [left]
    exact written.holds site.free holds
  have removed : ∀ {after}, after = (r.answer (.removeDirAll workDir)
      (r.answer (.pathExists workDir) s).2).2 → t.Survives workDir (tree after) := by
    intro after same
    obtain ⟨now, written, -, left⟩ :=
      site.onDisk.disk (.removeDirAll workDir) (r.answer (.pathExists workDir) s).2 rfl
    rw [same, left]
    exact prepared.removeDirectoryAll (written.holds site.free looked)
  cases cleanup with
  | absent =>
    obtain ⟨-, same⟩ := answers
    rw [Respondent.Answers] at same
    rw [same]
    exact looked.survives prepared.wellFormed
  | removed =>
    obtain ⟨-, -, same⟩ := answers
    exact removed same
  | refused cause =>
    obtain ⟨-, -, same⟩ := answers
    exact removed same

/-- A removal spares nothing that is below the working directory. -/
theorem Cleanup.loses {place : Location} {after : FileTree}
    (here : now.lookUp .itself workDir = .ok (place, .directory)) (cleanup : Cleanup workDir events)
    (answers : FileTree.surroundings.Answers now events after) :
    ∀ other, FileTree.isBelow place other = true → after.node? other = none := by
  intro other below
  have gone := FileTree.removeDirectoryAll_below here below
  cases cleanup with
  | absent =>
    obtain ⟨missing, -⟩ := answers
    have there := FileTree.pathExists_eq_true.mpr
      ⟨place, .directory, FileTree.lookUp_existing_of_itself here⟩
    change now.pathExists workDir = false at missing
    simp [there] at missing
  | removed =>
    obtain ⟨-, -, rfl⟩ := answers
    exact gone
  | refused cause =>
    obtain ⟨-, -, rfl⟩ := answers
    exact gone

theorem Abort.fares {last : JobState} (site : Considerate r tree inside t workDir)
    (terminal : last.isTerminal = true) (abort : Abort job last events job')
    (answers : r.Answers s events s') (standing : job.Standing t workDir (tree s)) :
    job'.Fares t workDir (tree s') := by
  obtain ⟨kill, cleanup⟩ := abort
  obtain ⟨between, killed, cleaned⟩ := Respondent.answers_append.mp answers
  have holds : t.Holds workDir (tree between) :=
    site.onDisk.keeps_of_apart (fun _ _ written => written.holds site.free)
      (fun _ _ asked => kill.ofDisk_eq_false asked) killed standing.holds
  rw [standing.place] at cleanup
  exact .of_terminal (cleanup.survives site standing.prepared cleaned holds) terminal

theorem Turn.fares (site : Considerate r tree inside t workDir)
    (turn : Turn config job events job') (answers : r.Answers s events s')
    (standing : job.Standing t workDir (tree s)) : job'.Fares t workDir (tree s') := by
  cases turn with
  | moved move => exact (move.standing site answers standing).fares
  | failed fault move abort =>
    obtain ⟨between, moved, aborted⟩ := Respondent.answers_append.mp answers
    exact abort.fares site rfl aborted (move.standing site moved standing)

theorem Pause.ofDisk_eq_false {question : Question} {answer : question.Answer}
    (pause : Pause (.asked question answer)) : question.ofDisk = false := by
  cases pause <;> rfl

theorem Chain.fares (site : Considerate r tree inside t workDir)
    (chain : Chain config job events job') (answers : r.Answers s events s')
    (fares : job.Fares t workDir (tree s)) : job'.Fares t workDir (tree s') := by
  induction chain generalizing s with
  | stay =>
    rw [Respondent.Answers] at answers
    rw [answers]
    exact fares
  | @pause job _ event rest idle _ ih =>
    replace answers : r.Answers s ([event] ++ rest) s' := answers
    obtain ⟨between, paused, later⟩ := Respondent.answers_append.mp answers
    refine ih later (site.onDisk.keeps_of_apart (fun _ _ => Fares.written site) ?_ paused fares)
    intro question answer asked
    rw [← List.mem_singleton.mp asked] at idle
    exact idle.ofDisk_eq_false
  | turn active turn _ ih =>
    obtain ⟨between, turned, later⟩ := Respondent.answers_append.mp answers
    exact ih later (turn.fares site turned (fares.2 active))
  | cancel active abort _ ih =>
    obtain ⟨between, aborted, later⟩ := Respondent.answers_append.mp answers
    exact ih later (abort.fares site rfl aborted (fares.2 active))

end Job

open Job

namespace Converter

variable {c c' : Converter} {call : Call} {response : Response} {source : Path}

def Fares (t : FileTree) (workDir : Path) (c : Converter) (now : FileTree) : Prop :=
  t.Survives workDir now ∧
    ∀ job, c.job = some job → job.state.isTerminal = false → job.Standing t workDir now

theorem Fares.job {job : Job} (current : c.job = some job) (fares : c.Fares t workDir now) :
    job.Fares t workDir now :=
  ⟨fares.1, fares.2 job current⟩

theorem Fares.written {after : FileTree} (site : Considerate r tree inside t workDir)
    (written : WrittenInside inside now after) (fares : c.Fares t workDir now) :
    c.Fares t workDir after := by
  refine ⟨written.survives site.wellFormed site.free fares.1, ?_⟩
  intro job current active
  exact ((fares.job current).written site written).2 active

theorem Conduct.fares (site : Considerate r tree inside t workDir)
    (other : call.isStart = false) (conduct : Conduct c call events response c')
    (answers : r.Answers s events s') (fares : c.Fares t workDir (tree s)) :
    c'.Fares t workDir (tree s') := by
  cases conduct with
  | busy | rejected | registered => cases other
  | listed =>
    refine (site.onDisk.keeps (fun _ _ => Fares.written site) ?_ answers fares).1
    intro question answer asked _ now fares _
    cases List.mem_singleton.mp asked
    exact fares
  | worked _ _ works =>
    cases works with
    | idle pauses =>
      exact site.onDisk.keeps_of_apart (fun _ _ => Fares.written site)
        (fun _ _ asked => (pauses _ asked).ofDisk_eq_false) answers fares
    | busy current chain =>
      have after := chain.fares site answers (fares.job current)
      refine ⟨after.1, ?_⟩
      intro job current'
      cases current'
      exact after.2

/-- Whatever is asked after a start, what was there before it stays. -/
theorem history_fares (site : Considerate r tree inside t workDir) (calls : List Call)
    (others : ∀ call ∈ calls, call.isStart = false) (c : Converter) (s : σ)
    (fares : c.Fares t workDir (tree s)) :
    t.Survives workDir (tree (History.of r calls c s).world) := by
  induction calls generalizing c s with
  | nil => exact fares.1
  | cons call rest ih =>
    obtain ⟨other, later⟩ := List.forall_mem_cons.mp others
    have conduct := respond_conduct ((c.respond call).perform_course r s)
    have answers := Respondent.answers_perform r (c.respond call) s
    exact ih later _ _ (conduct.fares site other answers fares)

/-! ## The start -/

/-- What a start should look for before it makes its working directory: nothing old is in what
the path leads to then, and for the empty path no file or link has the name of the staged copy. -/
def ClearToStart (config : Config) (source : Path) (t : FileTree) (workDir : Path) : Prop :=
  t.pathExists workDir = false → (t.makeDirectoryAll workDir).1 = .ok () →
    t.IsClear workDir ∧
    (workDir.bytes = [] → config.pipeline.isIntermediate source = true →
      ∀ name, source.fileName = some name → t.node? (t.current ++ [name]) = none ∨
        t.node? (t.current ++ [name]) = some .directory)

theorem inspection_answers {preexisting : Bool} {after : FileTree}
    (answers : FileTree.surroundings.Answers t (inspection workDir preexisting) after) :
    after = t ∧ (preexisting = false → t.pathExists workDir = false) ∧
      (preexisting = true →
        ∃ place, t.lookUp .existing workDir = .ok (place, .directory) ∧ t.names place = []) := by
  cases preexisting with
  | false =>
    obtain ⟨missing, rfl⟩ := answers
    exact ⟨rfl, fun _ => missing, nofun⟩
  | true =>
    obtain ⟨-, empty, writable, rfl⟩ := answers
    obtain ⟨place, found, nothing⟩ := FileTree.isEmptyDirectory_eq_ok empty
    have houses : t.Houses workDir place := .inr (FileTree.lookUp_eq_ok.mp found).1
    refine ⟨?_, nofun, fun _ => ⟨place, found, nothing⟩⟩
    rcases FileTree.checkWritable_cases houses with same | ⟨failed, -⟩
    · exact same
    · exact absurd writable failed

theorem Housing.extends_of_error {error : ConversionError} {after : FileTree} (wf : t.WellFormed)
    (housing : Housing workDir events (.error error))
    (answers : FileTree.surroundings.Answers t events after) : after.Extends t := by
  cases housing with
  | unlistable | occupied =>
    obtain ⟨-, -, rfl⟩ := answers
    exact .refl _
  | unwritable cause =>
    obtain ⟨-, empty, -, rfl⟩ := answers
    obtain ⟨place, found, -⟩ := FileTree.isEmptyDirectory_eq_ok empty
    have houses : t.Houses workDir place := .inr (FileTree.lookUp_eq_ok.mp found).1
    change (t.checkWritable workDir).2.Extends t
    rcases FileTree.checkWritable_cases houses with same | ⟨-, extended⟩
    · rw [same]
      exact .refl t
    · exact extended
  | unmade preexisting cause =>
    obtain ⟨between, inspected, -, rfl⟩ := Respondent.answers_append.mp answers
    obtain ⟨rfl, -⟩ := inspection_answers inspected
    exact (FileTree.readied_grows wf workDir).extended

/-- The working directory of an accepted start is there. -/
theorem Housing.readied_of_ok {preexisting : Bool} {after : FileTree}
    (housing : Housing workDir events (.ok preexisting))
    (answers : FileTree.surroundings.Answers t events after) :
    after = t.readied workDir ∧ (t.makeDirectoryAll workDir).1 = .ok () ∧
      (preexisting = false → t.pathExists workDir = false) ∧
      (preexisting = true →
        ∃ place, t.lookUp .existing workDir = .ok (place, .directory) ∧ t.names place = []) := by
  cases housing with
  | made =>
    obtain ⟨between, inspected, made, rfl⟩ := Respondent.answers_append.mp answers
    obtain ⟨rfl, before⟩ := inspection_answers inspected
    exact ⟨rfl, FileTree.attempted_eq_ok.mp made, before⟩

theorem prepared_of_housed {preexisting : Bool} (wf : t.WellFormed)
    (clear : ClearToStart config source t workDir)
    (made : (t.makeDirectoryAll workDir).1 = .ok ())
    (new : preexisting = false → t.pathExists workDir = false)
    (empty : preexisting = true →
      ∃ place, t.lookUp .existing workDir = .ok (place, .directory) ∧ t.names place = []) :
    t.Prepared workDir := by
  cases preexisting with
  | false =>
    refine ⟨wf, (clear (new rfl) made).1, ?_⟩
    by_cases nothing : workDir.bytes = []
    · exact .inl nothing
    · have there := FileTree.isDirectory_of_makeDirectoryAll nothing made
      exact .inr (FileTree.isDirectory_eq_true.mp there)
  | true =>
    obtain ⟨place, found, nothing⟩ := empty rfl
    have there := FileTree.isDirectory_eq_true.mpr ⟨place, found⟩
    have same : t.readied workDir = t := by
      rw [FileTree.readied, FileTree.makeDirectoryAll_of_isDirectory there]
    refine ⟨wf, ?_, .inr ⟨place, same.symm ▸ found⟩⟩
    intro goal located other below
    obtain ⟨located', -⟩ := FileTree.lookUp_eq_ok.mp found
    rw [same, located'] at located
    cases located
    exact wf.node?_below nothing below

/-- The staged copy is not in the way of anything. -/
theorem spare_of_staged {name : Bytes} (prepared : t.Prepared workDir)
    (clear : ClearToStart config source t workDir)
    (made : (t.makeDirectoryAll workDir).1 = .ok ())
    (staged : config.pipeline.isIntermediate source = true) (named : source.fileName = some name) :
    t.Spare workDir (workDir.join ⟨name⟩) := by
  have proper := Path.isName_of_fileName named
  rcases prepared.there with empty | ⟨place, led⟩
  · have missing : t.pathExists workDir = false := by
      rw [FileTree.pathExists, FileTree.lookUp_of_nil empty]
      rfl
    have same : t.readied workDir = t := by
      rw [FileTree.readied, FileTree.makeDirectoryAll_of_nil empty]
    refine ⟨name, t.current, rfl, proper, ?_, ?_⟩
    · exact .inl ⟨empty, by rw [same]⟩
    · rw [same]
      exact (clear missing made).2 empty staged name named
  · exact prepared.spare proper led

/-- What is known after a start that has come so far: nothing old is lost, and if it is accepted
a job with that working directory can be at work. -/
def Sound (t : FileTree) (workDir : Path) (result : Except ConversionError (Option Path))
    (now : FileTree) : Prop :=
  match result with
  | .error _ => t.Survives workDir now
  | .ok staged => t.Prepared workDir ∧ t.Holds workDir now ∧
      ∀ path, staged = some path → t.Spare workDir path

theorem answers_copy {answer : Reply Unit} {after : FileTree}
    (answers : FileTree.surroundings.Answers now (.asked (.copy source path) answer :: events)
      after) :
    (∃ cause, answer = .error cause ∧ FileTree.surroundings.Answers now events after) ∨
      ∃ made, now.copy source path = .ok made ∧ answer = .ok () ∧
        FileTree.surroundings.Answers made events after := by
  obtain ⟨copied, later⟩ := answers
  change (now.copyFile source path).1 = answer at copied
  change FileTree.surroundings.Answers (now.copyFile source path).2 events after at later
  rcases FileTree.copyFile_cases now source path with ⟨cause, failed⟩ | ⟨made, ok, done⟩
  · rw [failed] at copied later
    exact .inl ⟨cause, copied.symm, later⟩
  · rw [done] at copied later
    exact .inr ⟨made, ok, copied.symm, later⟩

theorem Staging.sound {preexisting : Bool} {after : FileTree}
    {result : Except ConversionError (Option Path)} (prepared : t.Prepared workDir)
    (spare : ∀ name, config.pipeline.isIntermediate source = true → source.fileName = some name →
      t.Spare workDir (workDir.join ⟨name⟩))
    (staging : Staging config source workDir preexisting events result)
    (answers : FileTree.surroundings.Answers (t.readied workDir) events after) :
    Sound t workDir result after := by
  have grows := FileTree.readied_grows prepared.wellFormed workDir
  have holds : t.Holds workDir (t.readied workDir) := ⟨.refl _, grows.wellFormed⟩
  cases staging with
  | plain =>
    rw [Respondent.Answers] at answers
    rw [answers]
    exact ⟨prepared, holds, by simp⟩
  | copied name staged named =>
    have place := spare name staged named
    rcases answers_copy answers with ⟨cause, failed, -⟩ | ⟨made, ok, -, same⟩
    · cases failed
    · rw [Respondent.Answers] at same
      rw [same]
      refine ⟨prepared, .copy prepared.wellFormed place ok, ?_⟩
      rintro path ⟨⟩
      exact place
  | left =>
    rcases answers_copy answers with ⟨cause, -, same⟩ | ⟨made, -, done, -⟩
    · rw [Respondent.Answers] at same
      rw [same]
      exact grows.extended.survives
    · cases done
  | undone _ _ _ _ _ cleanup =>
    rcases answers_copy answers with ⟨cause, -, cleaned⟩ | ⟨made, -, done, -⟩
    · have alone : ∀ u, WrittenInside (fun _ => False) u u := fun _ => ⟨rfl, fun _ _ => rfl, id⟩
      have site : Considerate FileTree.surroundings id (fun _ => False) t workDir :=
        ⟨prepared.wellFormed, FileTree.onDisk _ alone, fun _ never => never.elim⟩
      exact cleanup.survives site prepared cleaned holds
    · cases done

theorem Preparation.sound {after : FileTree} {result : Except ConversionError (Option Path)}
    (wf : t.WellFormed) (clear : ClearToStart config source t workDir)
    (preparation : Preparation config source workDir events result)
    (answers : FileTree.surroundings.Answers t events after) : Sound t workDir result after := by
  cases preparation with
  | unsupported =>
    rw [Respondent.Answers] at answers
    rw [answers]
    exact (FileTree.Extends.refl t).survives
  | unreadable =>
    obtain ⟨-, rfl⟩ := answers
    exact (FileTree.Extends.refl _).survives
  | unhoused _ housing =>
    obtain ⟨-, answers⟩ := answers
    exact (housing.extends_of_error wf answers).survives
  | housed preexisting _ house stage =>
    obtain ⟨-, answers⟩ := answers
    obtain ⟨between, housed, staged⟩ := Respondent.answers_append.mp answers
    obtain ⟨rfl, made, new, empty⟩ := house.readied_of_ok housed
    have prepared := prepared_of_housed wf clear made new empty
    exact stage.sound prepared (fun name => spare_of_staged prepared clear made) staged

theorem start_prepares (source workDir : Path) (t : FileTree) (idle : c.activeJob? = none) :
    let p := (c.start source workDir).perform FileTree.surroundings t
    (∃ error, p.value = (.error error, c) ∧
      Preparation c.config source workDir p.events (.error error)) ∨
    ∃ staged, p.value = (.ok ⟨c.nextId⟩, (c.register source workDir staged).2) ∧
      Preparation c.config source workDir p.events (.ok staged) := by
  intro p
  have conduct := start_conduct ((c.start source workDir).perform_course FileTree.surroundings t)
  change Conduct c _ p.events (.started p.value.1) p.value.2 at conduct
  obtain ⟨⟨result, next⟩, state, events⟩ := p
  cases conduct with
  | busy _ _ active =>
    rw [idle] at active
    cases active
  | rejected _ _ _ prepared => exact .inl ⟨_, rfl, prepared⟩
  | registered _ _ _ prepared => exact .inr ⟨_, rfl, prepared⟩
  | worked other => cases other

/-- From a start all that was there is kept by everything that can be asked later. -/
def KeepsAll (c : Converter) (source workDir : Path) (t : FileTree) : Prop :=
  let p := (c.start source workDir).perform FileTree.surroundings t
  ∀ {σ : Type} (r : Surroundings σ) (tree : σ → FileTree) (s : σ) (calls : List Call),
    tree s = p.state →
    OnDisk r tree (WrittenInside fun place =>
      (∃ handle, p.value.1 = .ok handle) ∧ t.OpenToTools workDir place) →
    (∀ call ∈ calls, call.isStart = false) →
    t.Survives workDir (tree (History.of r calls p.value.2 s).world)

theorem keepsAll_of_clear (wf : t.WellFormed) (idle : c.activeJob? = none)
    (clear : ClearToStart c.config source t workDir) : c.KeepsAll source workDir t := by
  unfold KeepsAll
  intro p σ r tree s calls same onDisk others
  have answers := Respondent.answers_perform FileTree.surroundings (c.start source workDir) t
  rcases start_prepares source workDir t idle with
    ⟨error, value, preparation⟩ | ⟨staged, value, preparation⟩
  · have survives : t.Survives workDir p.state := preparation.sound wf clear answers
    have value : p.value = (.error error, c) := value
    have closed : ∀ place, ((∃ handle, p.value.1 = .ok handle) ∧ t.OpenToTools workDir place) →
        (t.readied workDir).node? place = none := by
      rintro place ⟨⟨handle, accepted⟩, -⟩
      simp [value] at accepted
    refine history_fares ⟨wf, onDisk, closed⟩ calls others _ s ⟨same ▸ survives, ?_⟩
    intro job current active
    rw [value] at current
    have here := activeJob?_eq_some.mpr ⟨current, active⟩
    rw [idle] at here
    cases here
  · have value : p.value = (.ok ⟨c.nextId⟩, (c.register source workDir staged).2) := value
    obtain ⟨prepared, holds, spare⟩ : Sound t workDir (.ok staged) p.state :=
      preparation.sound wf clear answers
    have vacant : ∀ place, ((∃ handle, p.value.1 = .ok handle) ∧ t.OpenToTools workDir place) →
        (t.readied workDir).node? place = none := fun place opened =>
      opened.2.vacant prepared.clear
    refine history_fares ⟨wf, onDisk, vacant⟩ calls others _ s ⟨same ▸ holds.survives wf, ?_⟩
    intro job current active
    rw [value] at current
    cases current
    exact ⟨prepared, same ▸ holds, rfl, spare⟩

/-! ## What is lost otherwise -/

theorem Preparation.staging {staged : Option Path} {after : FileTree}
    (preparation : Preparation config source workDir events (.ok staged))
    (answers : FileTree.surroundings.Answers t events after) :
    ∃ preexisting later, Staging config source workDir preexisting later (.ok staged) ∧
      FileTree.surroundings.Answers (t.readied workDir) later after := by
  cases preparation with
  | housed preexisting _ house stage =>
    obtain ⟨-, answers⟩ := answers
    obtain ⟨between, housed, answers⟩ := Respondent.answers_append.mp answers
    obtain ⟨rfl, -⟩ := house.readied_of_ok housed
    exact ⟨preexisting, _, stage, answers⟩

/-- A staged copy may overwrite a file, but closes no way. -/
theorem Staging.hasWays {preexisting : Bool} {staged : Option Path} {after : FileTree}
    (staging : Staging config source workDir preexisting events (.ok staged))
    (answers : FileTree.surroundings.Answers now events after) : after.HasWays now := by
  cases staging with
  | plain =>
    rw [Respondent.Answers] at answers
    rw [answers]
    exact (FileTree.Extends.refl now).hasWays
  | copied name =>
    rcases answers_copy answers with ⟨cause, failed, -⟩ | ⟨made, ok, -, same⟩
    · cases failed
    · rw [Respondent.Answers] at same
      rw [same]
      obtain ⟨origin, content, executable, goal, -, -, other, direct, rfl⟩ :=
        FileTree.copy_eq_ok ok
      exact FileTree.hasWays_put other direct

/-- A job that has only been accepted has no tool to kill, so all that happens when it is given up
is the cleaning. -/
theorem cancelled_cleans (c : Converter) (source workDir : Path) (staged : Option Path)
    (now : FileTree) : ∃ cleaning, Cleanup workDir cleaning ∧ FileTree.surroundings.Answers now
      cleaning (((c.register source workDir staged).2.cancel ⟨c.nextId⟩).perform
        FileTree.surroundings now).state := by
  have course := ((c.register source workDir staged).2.cancel ⟨c.nextId⟩).perform_course
    FileTree.surroundings now
  have answers := Respondent.answers_perform FileTree.surroundings
    ((c.register source workDir staged).2.cancel ⟨c.nextId⟩) now
  have known : (c.register source workDir staged).2.find? ⟨c.nextId⟩ =
      (c.register source workDir staged).2.job := by
    simp [find?, register]
  generalize ((c.register source workDir staged).2.cancel ⟨c.nextId⟩).perform
    FileTree.surroundings now = p at course answers ⊢
  obtain ⟨⟨result, next⟩, state, events⟩ := p
  cases cancel_course course with
  | unknown absent =>
    rw [known] at absent
    cases absent
  | ended current terminal =>
    rw [known] at current
    cases current
    cases terminal
  | aborted current _ abort =>
    rw [known] at current
    cases current
    obtain ⟨kill, cleanup⟩ := abort
    obtain ⟨between, killed, cleaned⟩ := Respondent.answers_append.mp answers
    cases kill with
    | free =>
      rw [Respondent.Answers] at killed
      rw [killed] at cleaned
      exact ⟨_, cleanup, cleaned⟩
    | killed _ _ held => cases held
    | refused _ _ _ held => cases held

theorem cancelled_loses {staged : Option Path} {place : Location}
    (here : now.lookUp .itself workDir = .ok (place, .directory)) :
    ∀ other, FileTree.isBelow place other = true →
      (((c.register source workDir staged).2.cancel ⟨c.nextId⟩).perform FileTree.surroundings
        now).state.node? other = none := by
  obtain ⟨cleaning, cleanup, cleaned⟩ := cancelled_cleans c source workDir staged now
  exact cleanup.loses here cleaned

/-- For the empty path the staged copy takes the place of a file of its name, and where that file
is the source nothing is left of it. -/
theorem Staging.replaces {preexisting executable bit : Bool} {staged : Option Path}
    {name content old : Bytes} {origin : Location} {after : FileTree} (empty : workDir.bytes = [])
    (intermediate : config.pipeline.isIntermediate source = true)
    (named : source.fileName = some name)
    (found : now.lookUp .existing source = .ok (origin, .file content executable))
    (taken : now.node? (now.current ++ [name]) = some (.file old bit))
    (staging : Staging config source workDir preexisting events (.ok staged))
    (answers : FileTree.surroundings.Answers now events after) :
    after.node? (now.current ++ [name]) =
      some (.file (if now.current ++ [name] = origin then [] else content) executable) := by
  cases staging with
  | plain document => simp [intermediate] at document
  | copied name' _ named' =>
    rw [named] at named'
    cases named'
    rcases answers_copy answers with ⟨cause, failed, -⟩ | ⟨made, ok, -, same⟩
    · cases failed
    · rw [Respondent.Answers] at same
      obtain ⟨origin', content', executable', goal, found', located, -, -, rfl⟩ :=
        FileTree.copy_eq_ok ok
      rw [found] at found'
      cases found'
      have houses : now.Houses workDir now.current := .inl ⟨empty, rfl⟩
      have direct : ∀ target, now.node? (now.current ++ [name]) ≠ some (.link target) := by
        simp [taken]
      obtain ⟨-, rfl⟩ :=
        FileTree.locate_join (Path.isName_of_fileName named) houses (.inr direct) located
      rw [same, FileTree.node?_put (by simp), if_pos rfl]

/-- What an accepted start leaves behind. -/
theorem start_accepted {handle : JobHandle} (idle : c.activeJob? = none)
    (accepted : ((c.start source workDir).perform FileTree.surroundings t).value.1 = .ok handle) :
    let p := (c.start source workDir).perform FileTree.surroundings t
    handle = ⟨c.nextId⟩ ∧ ∃ staged preexisting later,
      p.value.2 = (c.register source workDir staged).2 ∧
      Staging c.config source workDir preexisting later (.ok staged) ∧
      FileTree.surroundings.Answers (t.readied workDir) later p.state := by
  have answers := Respondent.answers_perform FileTree.surroundings (c.start source workDir) t
  rcases start_prepares source workDir t idle with
    ⟨error, value, -⟩ | ⟨staged, value, preparation⟩
  · rw [value] at accepted
    cases accepted
  · obtain ⟨preexisting, later, staging, onward⟩ := preparation.staging answers
    rw [value] at accepted
    cases accepted
    exact ⟨rfl, staged, preexisting, later, congrArg Prod.snd value, staging, onward⟩

/-- A start that gets as far as making its working directory, which was missing and is then the
directory at `place`. -/
structure MakesDirectory (config : Config) (source workDir : Path) (t : FileTree)
    (place : Location) : Prop where
  accepts : config.pipeline.accepts source = true
  readable : t.checkReadable source = .ok ()
  missing : t.pathExists workDir = false
  made : (t.makeDirectoryAll workDir).1 = .ok ()
  led : (t.readied workDir).lookUp .itself workDir = .ok (place, .directory)

theorem MakesDirectory.not_empty {place : Location}
    (makes : MakesDirectory config source workDir t place) :
    ¬ ∃ goal, t.lookUp .existing workDir = .ok (goal, .directory) ∧ t.names goal = [] := by
  rintro ⟨goal, found, -⟩
  have there := FileTree.pathExists_eq_true.mpr ⟨goal, .directory, found⟩
  rw [makes.missing] at there
  cases there

/-- Such a start goes on to the staging. -/
theorem MakesDirectory.staging {place : Location} {after : FileTree}
    {result : Except ConversionError (Option Path)}
    (makes : MakesDirectory config source workDir t place)
    (preparation : Preparation config source workDir events result)
    (answers : FileTree.surroundings.Answers t events after) :
    ∃ later, Staging config source workDir false later result ∧
      FileTree.surroundings.Answers (t.readied workDir) later after := by
  cases preparation with
  | unsupported refused => simp [makes.accepts] at refused
  | unreadable =>
    obtain ⟨failed, -⟩ := answers
    change t.checkReadable source = _ at failed
    simp [makes.readable] at failed
  | unhoused _ housing =>
    obtain ⟨-, answers⟩ := answers
    cases housing with
    | unlistable | occupied | unwritable =>
      obtain ⟨there, -⟩ := answers
      change t.pathExists workDir = true at there
      simp [makes.missing] at there
    | unmade preexisting =>
      obtain ⟨between, inspected, failed, -⟩ := Respondent.answers_append.mp answers
      have same : between = t := (inspection_answers inspected).1
      change FileTree.attempted _ (between.makeDirectoryAll workDir).1 = _ at failed
      rw [same] at failed
      simp [makes.made, FileTree.attempted] at failed
  | housed preexisting _ house stage =>
    obtain ⟨-, answers⟩ := answers
    obtain ⟨between, housed, answers⟩ := Respondent.answers_append.mp answers
    obtain ⟨rfl, -, -, empty⟩ := house.readied_of_ok housed
    cases preexisting with
    | false => exact ⟨_, stage, answers⟩
    | true => exact absurd (empty rfl) makes.not_empty

/-- The cleaning after a failed copy is the same as that of a job. -/
theorem Staging.loses {error : ConversionError} {place : Location} {after : FileTree}
    (here : now.lookUp .itself workDir = .ok (place, .directory))
    (staging : Staging config source workDir false events (.error error))
    (answers : FileTree.surroundings.Answers now events after) :
    ∀ other, FileTree.isBelow place other = true → after.node? other = none := by
  cases staging with
  | left _ _ _ _ callers => cases callers
  | undone _ _ _ _ _ cleanup =>
    rcases answers_copy answers with ⟨cause, -, cleaned⟩ | ⟨made, -, done, -⟩
    · exact cleanup.loses here cleaned
    · cases done

/-- If such a start is refused, all that is below the directory is lost. -/
theorem MakesDirectory.refused_loses {error : ConversionError} {place : Location}
    (makes : MakesDirectory c.config source workDir t place) (idle : c.activeJob? = none)
    (refused : ((c.start source workDir).perform FileTree.surroundings t).value.1 = .error error) :
    ∀ other, FileTree.isBelow place other = true →
      ((c.start source workDir).perform FileTree.surroundings t).state.node? other = none := by
  have answers := Respondent.answers_perform FileTree.surroundings (c.start source workDir) t
  rcases start_prepares source workDir t idle with
    ⟨error, -, preparation⟩ | ⟨staged, value, -⟩
  · obtain ⟨later, staging, onward⟩ := makes.staging preparation answers
    exact staging.loses makes.led onward
  · rw [value] at refused
    cases refused

/-- If it is accepted, all that is below the directory is lost once the job is given up. -/
theorem MakesDirectory.cancel_loses {handle : JobHandle} {place : Location}
    (makes : MakesDirectory c.config source workDir t place) (idle : c.activeJob? = none)
    (accepted : ((c.start source workDir).perform FileTree.surroundings t).value.1 = .ok handle) :
    let p := (c.start source workDir).perform FileTree.surroundings t
    ∀ other, FileTree.isBelow place other = true →
      ((p.value.2.cancel handle).perform FileTree.surroundings p.state).state.node? other =
        none := by
  intro p
  obtain ⟨rfl, staged, preexisting, later, value, staging, onward⟩ := start_accepted idle accepted
  have here := (staging.hasWays onward).lookUp_directory rfl makes.led
  have value : p.value.2 = (c.register source workDir staged).2 := value
  rw [value]
  exact cancelled_loses here

theorem MakesDirectory.keepsAll_iff {place : Location} (wf : t.WellFormed)
    (idle : c.activeJob? = none) (makes : MakesDirectory c.config source workDir t place) :
    c.KeepsAll source workDir t ↔
      ∀ other, FileTree.isBelow place other = true → t.node? other = none := by
  constructor
  · intro keeps other below
    have alone : ∀ inside u, WrittenInside inside u u := fun _ _ => ⟨rfl, fun _ _ => rfl, id⟩
    cases old : t.node? other with
    | none => rfl
    | some node =>
      -- The directory itself is excepted, but not what is below it.
      have apart : ¬ t.IsWorkDir workDir other node := by
        rintro ⟨located, -⟩
        rw [(FileTree.lookUp_eq_ok.mp makes.led).1] at located
        cases located
        simp [FileTree.not_isBelow_self] at below
      cases value : ((c.start source workDir).perform FileTree.surroundings t).value.1 with
      | error error =>
        have lost := makes.refused_loses idle value other below
        have survives := keeps FileTree.surroundings id _ [] rfl
          (FileTree.onDisk _ (alone _)) nofun
        have kept := (survives other node old).resolve_right apart
        rw [← kept]
        exact lost
      | ok handle =>
        have lost := makes.cancel_loses idle value other below
        have survives := keeps FileTree.surroundings id _ [.cancel handle] rfl
          (FileTree.onDisk _ (alone _)) (by simp [Call.isStart])
        have kept := (survives other node old).resolve_right apart
        rw [id, History.of, History.of, respond, Dialogue.perform_bind] at kept
        rw [← kept]
        exact lost
  · intro nothing
    refine keepsAll_of_clear wf idle fun _ _ => ⟨?_, ?_⟩
    · intro goal located
      have there := FileTree.lookUp_existing_of_itself makes.led
      rw [(FileTree.lookUp_eq_ok.mp there).1] at located
      cases located
      exact nothing
    · intro empty
      have led := makes.led
      rw [FileTree.lookUp_of_nil empty] at led
      cases led

/-- From a start all that was there is kept, with the working directory itself as the only
exception, if nothing old is in the directory that is made for it. Where the path was missing and
leads to a directory then, and not to a link, this is also necessary: all that is below is
removed by the start itself if it is refused after all, and by giving up the job otherwise. For
the empty path the staged copy replaces the file of its name in the current directory, be it the
source itself. -/
theorem old_entries_kept_iff_directory_clear (c : Converter) (source workDir : Path) (t : FileTree)
    (idle : c.activeJob? = none) (wf : t.WellFormed) :
    let p := (c.start source workDir).perform FileTree.surroundings t
    (ClearToStart c.config source t workDir → c.KeepsAll source workDir t) ∧
    (∀ place, MakesDirectory c.config source workDir t place →
      (c.KeepsAll source workDir t ↔
        ∀ other, FileTree.isBelow place other = true → t.node? other = none) ∧
      (∀ error, p.value.1 = .error error → ∀ other, FileTree.isBelow place other = true →
        p.state.node? other = none) ∧
      (∀ handle, p.value.1 = .ok handle → ∀ other, FileTree.isBelow place other = true →
        ((p.value.2.cancel handle).perform FileTree.surroundings p.state).state.node? other =
          none)) ∧
    (∀ handle name origin content executable old bit, p.value.1 = .ok handle →
      workDir.bytes = [] → c.config.pipeline.isIntermediate source = true →
      source.fileName = some name →
      t.lookUp .existing source = .ok (origin, .file content executable) →
      t.node? (t.current ++ [name]) = some (.file old bit) →
      p.state.node? (t.current ++ [name]) =
        some (.file (if t.current ++ [name] = origin then [] else content) executable)) := by
  intro p
  refine ⟨keepsAll_of_clear wf idle, ?_, ?_⟩
  · intro place makes
    refine ⟨makes.keepsAll_iff wf idle, ?_, ?_⟩
    · intro error refused
      exact makes.refused_loses idle refused
    · intro handle accepted
      exact makes.cancel_loses idle accepted
  · intro handle name origin content executable old bit accepted empty intermediate named found
      taken
    obtain ⟨-, staged, preexisting, later, -, staging, onward⟩ := start_accepted idle accepted
    have same : t.readied workDir = t := by
      rw [FileTree.readied, FileTree.makeDirectoryAll_of_nil empty]
    rw [same] at onward
    exact staging.replaces empty intermediate named found taken onward

/-- A start with `missing/..` is accepted though the current directory is full, and to cancel it
loses the source and the notes beside it. -/
theorem cancel_removes_current_directory :
    let talk := Path.ofString "talk.odp"
    let notes := Path.ofString "notes.txt"
    let t := (FileTree.put {} [talk.bytes] (.file [1] false)).put [notes.bytes] (.file [2] false)
    let p := (start { config := {} } talk (.ofString "missing/..")).perform FileTree.surroundings t
    let after := ((p.value.2.cancel ⟨1⟩).perform FileTree.surroundings p.state).state
    activeJob? { config := {} } = none ∧ t.WellFormed ∧ p.value.1 = .ok ⟨1⟩ ∧
      t.node? [talk.bytes] = some (.file [1] false) ∧ after.node? [talk.bytes] = none ∧
      t.node? [notes.bytes] = some (.file [2] false) ∧ after.node? [notes.bytes] = none := by
  intro talk notes t p after
  have bare : FileTree.WellFormed {} := by
    constructor <;> intro place name node here <;> simp [FileTree.node?] at here
  have one : (FileTree.put {} [talk.bytes] (.file [1] false)).WellFormed :=
    bare.put (FileTree.node?_root _) (by constructor <;> decide) (by decide)
  have wf : t.WellFormed :=
    one.put (FileTree.node?_root _) (by constructor <;> decide) (by decide)
  have accepted : p.value.1 = .ok ⟨1⟩ := by rfl
  have makes : MakesDirectory {} talk (.ofString "missing/..") t [] :=
    ⟨by decide, by rfl, by decide, by rfl, by rfl⟩
  obtain ⟨-, decisive, -⟩ :=
    old_entries_kept_iff_directory_clear { config := {} } talk (.ofString "missing/..") t rfl wf
  obtain ⟨-, -, lost⟩ := decisive [] makes
  have gone := lost ⟨1⟩ accepted
  exact ⟨rfl, wf, accepted, by decide, gone [talk.bytes] rfl, by decide, gone [notes.bytes] rfl⟩

end Converter

end Calls

end SlideConverter

import SlideConverter.Proofs.Conversion.Preservation

/-!
# What a failed start leaves behind

A start that cannot make its working directory, or cannot stage the source there, leaves the
converter as it was, and a directory of the caller too. When the copy has failed, a directory that
the start has made is removed again, but the directories made on the way to it stay; and when the
making itself has failed half-way, all stays that had been made by then.
-/

namespace SlideConverter

/-- Questions that may be answered with an error though the tree would grant them. -/
def Question.mayFail : Question → Bool
  | .createDirAll _ | .copy _ _ => true
  | _ => false

namespace FileTree

/-- The making of a directory has failed: nothing has been made, or else as much as is needed for
a directory on the way to it. -/
def PartlyMade (t : FileTree) (path : Path) (made : FileTree) : Prop :=
  made = t ∨ t.isDirectory path = false ∧
    ∃ above, above <:+ path.lineage ∧ made = (t.makeFirst above).2

/-- What the undoing of a start makes of the tree. -/
def undone (t : FileTree) (workDir : Path) : FileTree :=
  if t.pathExists workDir then (t.removeDirectoryAll workDir).2 else t

variable {t made : FileTree} {path : Path} {place : Location}

theorem undone_of_lookUp (here : t.lookUp .itself path = .ok (place, .directory)) :
    t.undone path = (t.removeDirectoryAll path).2 := by
  have there := pathExists_eq_true.mpr ⟨place, .directory, lookUp_existing_of_itself here⟩
  rw [undone, if_pos there]

/-- A start that has made one directory and no others undoes all of it. -/
theorem undone_of_makeDirectory (wf : t.WellFormed) (ok : t.makeDirectory path = .ok made) :
    (t.readied path).undone path = t := by
  obtain ⟨goal, located, vacant, same⟩ := makeDirectory_eq_ok ok
  have here : made.lookUp .itself path = .ok (goal, .directory) := by
    rw [same]
    exact lookUp_made rfl located vacant
  rw [readied, makeDirectoryAll_of_makeDirectory ok, undone_of_lookUp here,
    removeDirectoryAll_of_makeDirectory wf ok]

end FileTree

/-- The disk is the tree that `tree` shows and nobody else writes to it. A directory may be made
only in part, as if by a full disk, and a copy may fail, without a trace. -/
structure Fallible {σ : Type} (r : Surroundings σ) (tree : σ → FileTree) : Prop where
  steady : ∀ question s, question.ofDisk = true → question.mayFail = false →
    (r.answer question s).1 = (FileTree.answer question (tree s)).1 ∧
    tree (r.answer question s).2 = (FileTree.answer question (tree s)).2
  making : ∀ path s, let answered := r.answer (.createDirAll path) s
    (answered.1 = ((tree s).ensureDirectory path).1 ∧
      tree answered.2 = ((tree s).ensureDirectory path).2) ∨
    (∃ cause, answered.1 = .error cause) ∧ (tree s).PartlyMade path (tree answered.2)
  copying : ∀ source target s, let answered := r.answer (.copy source target) s
    (answered.1 = ((tree s).copyFile source target).1 ∧
      tree answered.2 = ((tree s).copyFile source target).2) ∨
    (∃ cause, answered.1 = .error cause) ∧ tree answered.2 = tree s

theorem FileTree.fallible : Fallible FileTree.surroundings id where
  steady _ _ _ _ := ⟨rfl, rfl⟩
  making _ _ := .inl ⟨rfl, rfl⟩
  copying _ _ _ := .inl ⟨rfl, rfl⟩

/-- A tree on which every copy fails. -/
def FileTree.uncopying : Surroundings FileTree where
  answer
    | .copy _ _, t => (.error ⟨["no space left on device"]⟩, t)
    | question, t => FileTree.answer question t

theorem FileTree.fallible_uncopying : Fallible FileTree.uncopying id where
  steady question _ _ sure := by
    cases question <;> first | exact ⟨rfl, rfl⟩ | cases sure
  making _ _ := .inl ⟨rfl, rfl⟩
  copying _ _ _ := .inr ⟨⟨_, rfl⟩, rfl⟩

namespace Fallible

variable {σ : Type} {r : Surroundings σ} {tree : σ → FileTree} {s s' : σ} {path source : Path}
  {events : List ActEvent} {cause : ErrorChain}

theorem made (fallible : Fallible r tree)
    (ok : (r.answer (.createDirAll path) s).1 = .ok ()) :
    ((tree s).makeDirectoryAll path).1 = .ok () ∧
      tree (r.answer (.createDirAll path) s).2 = (tree s).readied path := by
  rcases fallible.making path s with ⟨same, after⟩ | ⟨⟨cause, failed⟩, -⟩
  · rw [ok] at same
    exact ⟨FileTree.attempted_eq_ok.mp same.symm, after⟩
  · rw [ok] at failed
    cases failed

/-- However the making goes, nothing else comes of it. -/
theorem partlyMade (fallible : Fallible r tree) (path : Path) (s : σ) :
    (tree s).PartlyMade path (tree (r.answer (.createDirAll path) s).2) := by
  rcases fallible.making path s with ⟨same, after⟩ | ⟨-, partly⟩
  · rw [after]
    by_cases there : (tree s).isDirectory path = true
    · left
      simp [FileTree.ensureDirectory, FileTree.attempting,
        FileTree.makeDirectoryAll_of_isDirectory there]
    · exact .inr ⟨by simpa using there, path.lineage, List.suffix_rfl, rfl⟩
  · exact partly

theorem uncopied (fallible : Fallible r tree) {target : Path}
    (failed : (r.answer (.copy source target) s).1 = .error cause) :
    tree (r.answer (.copy source target) s).2 = tree s := by
  rcases fallible.copying source target s with ⟨same, after⟩ | ⟨-, same⟩
  · rw [failed] at same
    rcases FileTree.copyFile_cases (tree s) source target with ⟨cause, refused⟩ | ⟨made, -, done⟩
    · rw [after, refused]
    · rw [done] at same
      cases same
  · exact same

/-- What cannot fail is answered as by the tree itself. -/
theorem answers_tree (fallible : Fallible r tree)
    (steady : ∀ question answer, .asked question answer ∈ events →
      question.ofDisk = true ∧ question.mayFail = false)
    (answers : r.Answers s events s') :
    FileTree.surroundings.Answers (tree s) events (tree s') := by
  induction events generalizing s with
  | nil =>
    rw [Respondent.Answers] at answers
    rw [answers]
    rfl
  | cons event rest ih =>
    have later := fun question answer there =>
      steady question answer (List.mem_cons_of_mem event there)
    cases event with
    | noted entry => exact ih later answers
    | asked question answer =>
      obtain ⟨same, onward⟩ := answers
      obtain ⟨ofDisk, granted⟩ := steady question answer List.mem_cons_self
      obtain ⟨agrees, after⟩ := fallible.steady question s ofDisk granted
      have rest := ih later onward
      rw [after] at rest
      exact ⟨agrees.symm.trans same, rest⟩

end Fallible

open Job

namespace Converter

variable {σ : Type} {r : Surroundings σ} {tree : σ → FileTree} {s s' : σ} {c : Converter}
  {config : Config} {source workDir : Path} {events : List ActEvent} {cause : ErrorChain}

theorem inspection_leaves {preexisting : Bool} (fallible : Fallible r tree)
    (answers : r.Answers s (inspection workDir preexisting) s') :
    tree s' = tree s ∧ (preexisting = false → (tree s).pathExists workDir = false) ∧
      (preexisting = true → ∃ place,
        (tree s).lookUp .existing workDir = .ok (place, .directory) ∧
          (tree s).names place = []) := by
  refine inspection_answers (fallible.answers_tree ?_ answers)
  intro question answer asked
  cases preexisting with
  | false =>
    cases List.mem_singleton.mp asked
    exact ⟨rfl, rfl⟩
  | true =>
    simp only [inspection, List.mem_cons, List.not_mem_nil, or_false] at asked
    rcases asked with same | same | same <;> cases same <;> exact ⟨rfl, rfl⟩

theorem undone_of_cleanup {cleaning : List ActEvent} (fallible : Fallible r tree)
    (cleanup : Cleanup workDir cleaning) (answers : r.Answers s cleaning s') :
    tree s' = (tree s).undone workDir := by
  have steady : ∀ question answer, .asked question answer ∈ cleaning →
      question.ofDisk = true ∧ question.mayFail = false := by
    intro question answer asked
    cases cleanup with
    | absent =>
      cases List.mem_singleton.mp asked
      exact ⟨rfl, rfl⟩
    | removed =>
      simp only [List.mem_cons, List.not_mem_nil, or_false] at asked
      rcases asked with same | same <;> cases same <;> exact ⟨rfl, rfl⟩
    | refused =>
      simp only [List.mem_cons, List.not_mem_nil, or_false] at asked
      rcases asked with same | same | same <;> cases same <;> exact ⟨rfl, rfl⟩
  have answers' := fallible.answers_tree steady answers
  cases cleanup with
  | absent =>
    obtain ⟨absent, after⟩ := answers'
    have absent : (tree s).pathExists workDir = false := absent
    rw [FileTree.undone, absent]
    exact after
  | removed | refused =>
    obtain ⟨there, -, after⟩ := answers'
    have there : (tree s).pathExists workDir = true := there
    rw [FileTree.undone, if_pos there]
    exact after

/-- What is left of a start that could not make its directory or stage the source. -/
inductive Remains (source workDir : Path) (t : FileTree) (events : List ActEvent) :
    FileTree → Prop
  /-- The directory was there before. -/
  | callers (place : Location)
      (found : t.lookUp .existing workDir = .ok (place, .directory)) (empty : t.names place = []) :
    Remains source workDir t events t
  | unmade (missing : t.pathExists workDir = false) (above : List Path) (cause : ErrorChain)
      (asked : .asked (.createDirAll workDir) (.error cause) ∈ events)
      (part : above <:+ workDir.lineage) :
    Remains source workDir t events (t.makeFirst above).2
  | undone (missing : t.pathExists workDir = false) (target : Path) (cause : ErrorChain)
      (made : (t.makeDirectoryAll workDir).1 = .ok ())
      (asked : .asked (.copy source target) (.error cause) ∈ events) :
    Remains source workDir t events ((t.readied workDir).undone workDir)

theorem Housing.remains {housing : List ActEvent} (fallible : Fallible r tree)
    (house : Housing workDir housing (.error (.filesystem cause)))
    (answers : r.Answers s housing s') (within : ∀ e ∈ housing, e ∈ events) :
    Remains source workDir (tree s) events (tree s') := by
  cases house with
  | unmade preexisting =>
    obtain ⟨between, inspected, failed, made⟩ := Respondent.answers_append.mp answers
    obtain ⟨same, missing, empty⟩ := inspection_leaves fallible inspected
    have partly := fallible.partlyMade workDir between
    rw [same] at partly
    rw [Respondent.Answers] at made
    rw [made]
    have asked : .asked (.createDirAll workDir) (.error cause) ∈ events := within _ (by simp)
    cases preexisting with
    | true =>
      obtain ⟨place, found, nothing⟩ := empty rfl
      have there := FileTree.isDirectory_eq_true.mpr ⟨place, found⟩
      rcases partly with unchanged | ⟨absent, -⟩
      · rw [unchanged]
        exact .callers place found nothing
      · simp [there] at absent
    | false =>
      rcases partly with unchanged | ⟨-, above, part, made⟩
      · rw [unchanged]
        exact .unmade (missing rfl) [] cause asked List.nil_suffix
      · rw [made]
        exact .unmade (missing rfl) above cause asked part

theorem Preparation.remains (fallible : Fallible r tree)
    (prepared : Preparation config source workDir events (.error (.filesystem cause)))
    (answers : r.Answers s events s') : Remains source workDir (tree s) events (tree s') := by
  -- the source is looked at first, which changes nothing
  have looked : tree (r.answer (.checkReadable source) s).2 = tree s :=
    (fallible.steady (.checkReadable source) s rfl rfl).2
  cases prepared with
  | unhoused _ house =>
    obtain ⟨-, answers⟩ := answers
    rw [← looked]
    exact house.remains fallible answers fun e there => List.mem_cons_of_mem _ there
  | housed preexisting _ house stage =>
    obtain ⟨-, answers⟩ := answers
    obtain ⟨between, housed, staged⟩ := Respondent.answers_append.mp answers
    cases house with
    | made =>
      obtain ⟨inspectedState, inspected, ok, made⟩ := Respondent.answers_append.mp housed
      obtain ⟨same, missing, empty⟩ := inspection_leaves fallible inspected
      obtain ⟨done, readied⟩ := fallible.made ok
      rw [Respondent.Answers] at made
      rw [← made] at readied
      rw [same, looked] at done readied
      rw [looked] at missing empty
      cases stage with
      | left name cause _ _ callers =>
        obtain ⟨failed, after⟩ := staged
        obtain ⟨place, found, nothing⟩ := empty callers
        have there := FileTree.isDirectory_eq_true.mpr ⟨place, found⟩
        have uncopied := fallible.uncopied failed
        rw [Respondent.Answers] at after
        rw [after, uncopied, readied, FileTree.readied,
          FileTree.makeDirectoryAll_of_isDirectory there]
        exact .callers place found nothing
      | undone name cause _ _ own cleanup =>
        obtain ⟨failed, cleaned⟩ := staged
        have uncopied := fallible.uncopied failed
        rw [undone_of_cleanup fallible cleanup cleaned, uncopied, readied]
        exact .undone (missing own) (workDir.join ⟨name⟩) cause done (by simp)

theorem Conduct.remains {c' : Converter} (fallible : Fallible r tree)
    (conduct : Conduct c (.start source workDir) events (.started (.error (.filesystem cause))) c')
    (answers : r.Answers s events s') :
    c' = c ∧ Remains source workDir (tree s) events (tree s') := by
  cases conduct with
  | rejected _ _ _ prepared => exact ⟨rfl, prepared.remains fallible answers⟩
  | worked other => cases other

/-- A start that fails on the disk leaves the converter as it was, and a directory of the caller
stays as it is and empty. Where there was none, a failed making is not undone at all: what it has
made by then stays, beside all that was there. A failed copy is undone for the working directory
alone: so the tree is as it was if nothing else had been made, and only then. -/
theorem tree_after_failed_start (fallible : Fallible r tree) (wf : (tree s).WellFormed)
    (c : Converter) (source workDir : Path) :
    let p := (c.start source workDir).perform r s
    let t := tree s
    let after := tree p.state
    ∀ cause, p.value.1 = .error (.filesystem cause) →
      p.value.2 = c ∧
      (t.pathExists workDir = true → after = t ∧ ∃ place,
        t.lookUp .existing workDir = .ok (place, .directory) ∧ t.names place = []) ∧
      (t.pathExists workDir = false →
        (∃ refused, .asked (.createDirAll workDir) (.error refused) ∈ p.events ∧
          (∃ above, above <:+ workDir.lineage ∧ after = (t.makeFirst above).2) ∧
          after.Extends t) ∨
        (∃ target refused, .asked (.copy source target) (.error refused) ∈ p.events ∧
          (t.makeDirectoryAll workDir).1 = .ok () ∧
          after = (t.readied workDir).undone workDir ∧
          (∀ made, t.makeDirectory workDir = .ok made → after = t) ∧
          ∀ place, (t.readied workDir).lookUp .itself workDir = .ok (place, .directory) →
            t.node? place = none →
            ((∀ other, after.node? other = t.node? other) ↔
              after.node? place = none ∧
                ∀ other, other ≠ place → FileTree.isBelow place other = false →
                  (t.readied workDir).node? other = t.node? other))) := by
  intro p t after cause failed
  have conduct := start_conduct ((c.start source workDir).perform_course r s)
  have answers : r.Answers s p.events p.state :=
    Respondent.answers_perform r (c.start source workDir) s
  change Conduct c (.start source workDir) p.events (.started p.value.1) p.value.2 at conduct
  rw [failed] at conduct
  obtain ⟨unchanged, remains⟩ := conduct.remains fallible answers
  refine ⟨unchanged, ?_⟩
  change Remains source workDir t p.events after at remains
  generalize after = left at remains ⊢
  cases remains with
  | callers place found empty =>
    have there := FileTree.pathExists_eq_true.mpr ⟨place, .directory, found⟩
    exact ⟨fun _ => ⟨rfl, place, found, empty⟩, fun missing => by simp [there] at missing⟩
  | unmade missing above refused asked part =>
    refine ⟨fun there => by simp [missing] at there, fun _ => .inl ?_⟩
    exact ⟨refused, asked, ⟨above, part, rfl⟩, (FileTree.makeFirst_grows wf above).extended⟩
  | undone missing target refused made asked =>
    refine ⟨fun there => by simp [missing] at there, fun _ => .inr ?_⟩
    refine ⟨target, refused, asked, made, rfl, ?_, ?_⟩
    · exact fun made ok => FileTree.undone_of_makeDirectory wf ok
    · intro place here new
      rw [FileTree.undone_of_lookUp here]
      exact FileTree.removeDirectoryAll_undoes_iff wf here new

/-- Whether a directory could not be made. -/
def refusesDirectory : ActEvent → Bool
  | .asked (.createDirAll _) (.error _) => true
  | _ => false

/-- With one document in the tree, a start at `a/b/.` cannot make its directory and leaves `a`,
and `a` is left as well by a start at `a/b` that cannot stage its copy. -/
theorem failed_start_leaves_directories :
    let c : Converter := { config := {} }
    let deck := Path.ofString "deck.pdf"
    let t := FileTree.put {} [deck.bytes] (.file [1] false)
    let unmade := (c.start deck (.ofString "a/b/.")).perform FileTree.surroundings t
    let unstaged := (c.start deck (.ofString "a/b")).perform FileTree.uncopying t
    let a := (Path.ofString "a").bytes
    t.WellFormed ∧ t.node? [a] = none ∧
      (∃ cause, unmade.value.1 = .error (.filesystem cause)) ∧ unmade.value.2 = c ∧
      unmade.state.node? [a] = some .directory ∧
      (∃ cause, unstaged.value.1 = .error (.filesystem cause)) ∧ unstaged.value.2 = c ∧
      unstaged.state.pathExists (.ofString "a/b") = false ∧
      ¬ ∀ other, unstaged.state.node? other = t.node? other := by
  intro c deck t unmade unstaged a
  have bare : FileTree.WellFormed {} := by
    constructor <;> intro place name node here <;> simp [FileTree.node?] at here
  have wf : t.WellFormed :=
    bare.put (FileTree.node?_root _) (by constructor <;> decide) (by decide)
  have unmadeError : ∃ cause, unmade.value.1 = .error (.filesystem cause) := ⟨_, rfl⟩
  have unstagedError : unstaged.value.1 = .error (.filesystem ⟨["no space left on device"]⟩) := by
    decide +kernel
  have unmadeSame : unmade.value.2 = c := by
    obtain ⟨cause, failed⟩ := unmadeError
    exact (tree_after_failed_start (s := t) FileTree.fallible wf c deck _ cause failed).1
  have left : unmade.state.node? [a] = some .directory := by decide +kernel
  have unstagedPart :=
    tree_after_failed_start (s := t) FileTree.fallible_uncopying wf c deck _ _ unstagedError
  have missing : t.pathExists (.ofString "a/b") = false := by decide +kernel
  have gone : unstaged.state.pathExists (.ofString "a/b") = false := by decide +kernel
  have unrestored : ¬ ∀ other, unstaged.state.node? other = t.node? other := by
    intro same
    rcases unstagedPart.2.2 missing with
      ⟨refused, asked, -⟩ | ⟨target, refused, -, -, -, -, undoes⟩
    · have granted : ∀ e ∈ unstaged.events, refusesDirectory e = false := by decide +kernel
      have denied := granted _ asked
      cases denied
    · have led : (t.readied (.ofString "a/b")).lookUp .itself (.ofString "a/b") =
          .ok ([a, (Path.ofString "b").bytes], .directory) := by decide +kernel
      obtain ⟨-, alone⟩ := (undoes [a, (Path.ofString "b").bytes] led (by decide)).mp same
      have there : (t.readied (.ofString "a/b")).node? [a] = t.node? [a] :=
        alone [a] (by decide) (by decide)
      have made : (t.readied (.ofString "a/b")).node? [a] = some .directory := by decide +kernel
      have before : t.node? [a] = none := by decide
      rw [made, before] at there
      cases there
  exact ⟨wf, by decide, unmadeError, unmadeSame, left, ⟨_, unstagedError⟩, unstagedPart.1, gone,
    unrestored⟩

end Converter

end SlideConverter

import Mathlib.Data.List.Induction
import Mathlib.Logic.Function.Basic
import SlideConverter.Proofs.Conversion.Preservation

/-!
# Several converters on one disk

Converters do not know of each other, and nothing marks a working directory as taken. What keeps
two jobs apart is that a start looks whether the directory is empty. So a job has its directory to
itself from the moment that something of it is there; until then, and after the directory has been
removed by somebody else, another converter is let in, and whoever gives up first removes the
directory for both.
-/

namespace SlideConverter

open Converter Job

/-- Converters that work in the same surroundings. -/
structure Fleet (ι σ : Type) where
  converters : ι → Converter
  world : σ

namespace Fleet

variable {ι σ : Type} [DecidableEq ι]

/-- One of the converters responds to a call. -/
def after (r : Surroundings σ) (f : Fleet ι σ) (step : ι × Call) : Fleet ι σ :=
  let p := ((f.converters step.1).respond step.2).perform r f.world
  { converters := Function.update f.converters step.1 p.value.2, world := p.state }

/-- Calls of the converters, in this order. -/
def run (r : Surroundings σ) (f : Fleet ι σ) (steps : List (ι × Call)) : Fleet ι σ :=
  steps.foldl (after r) f

/-- What a start sees of its working directory when it looks there: there is no such path, or it
leads to a directory without entries. -/
def FoundVacant (r : Surroundings σ) (tree : σ → FileTree) (writes : FileTree → FileTree → Prop)
    (source workDir : Path) (s : σ) : Prop :=
  let readable := r.answer (.checkReadable source) s
  let there := r.answer (.pathExists workDir) readable.2
  (∃ t, writes (tree readable.2) t ∧ t.pathExists workDir = false) ∨
    ∃ t place, writes (tree there.2) t ∧ t.lookUp .existing workDir = .ok (place, .directory) ∧
      t.names place = []

/-- In the course of some calls the later of two jobs has been accepted while the earlier one was
at work already, because the directory was found vacant. -/
def AcceptedBeside (r : Surroundings σ) (tree : σ → FileTree)
    (writes : FileTree → FileTree → Prop) (f : Fleet ι σ) (steps : List (ι × Call))
    (early late : ι) (earlier later : Job) : Prop :=
  ∃ before source rest job, steps = before ++ (late, .start source later.workDir) :: rest ∧
    let g := f.run r before
    (g.converters early).job = some job ∧ job.state.isTerminal = false ∧
    SameIdentity job earlier ∧
    (((g.converters late).start source later.workDir).perform r g.world).value.1 =
      .ok later.handle ∧
    FoundVacant r tree writes source later.workDir g.world

variable {r : Surroundings σ} {tree : σ → FileTree} {writes : FileTree → FileTree → Prop}
  {f g : Fleet ι σ} {steps : List (ι × Call)} {i j : ι} {call : Call} {a a' b b' job : Job}
  {c c' : Converter} {config : Config} {source workDir : Path} {events : List ActEvent}
  {response : Response} {s s' : σ}

theorem run_append_singleton (step : ι × Call) :
    f.run r (steps ++ [step]) = (f.run r steps).after r step := by
  rw [run, List.foldl_append, ← run]
  rfl

theorem after_self : (g.after r (i, call)).converters i =
    (((g.converters i).respond call).perform r g.world).value.2 := by
  simp [after]

theorem after_of_ne (other : i ≠ j) : (g.after r (i, call)).converters j = g.converters j :=
  Function.update_of_ne other.symm _ _

/-! ## What an accepted start has seen -/

theorem foundVacant_of_prepared {staged : Option Path} (onDisk : OnDisk r tree writes)
    (prepared : Preparation config source workDir events (.ok staged))
    (answers : r.Answers s events s') : FoundVacant r tree writes source workDir s := by
  cases prepared with
  | housed preexisting accepted house stage =>
    obtain ⟨-, answers⟩ := answers
    obtain ⟨_, housed, -⟩ := Respondent.answers_append.mp answers
    cases house with
    | made =>
      cases preexisting with
      | false =>
        obtain ⟨missing, -⟩ := housed
        obtain ⟨t, wrote, same, -⟩ := onDisk.disk (.pathExists workDir) _ rfl
        exact .inl ⟨t, wrote, same.symm.trans missing⟩
      | true =>
        obtain ⟨-, empty, -⟩ := housed
        obtain ⟨t, wrote, same, -⟩ := onDisk.disk (.isEmptyDir workDir) _ rfl
        obtain ⟨place, found, nothing⟩ := FileTree.isEmptyDirectory_eq_ok (same.symm.trans empty)
        exact .inr ⟨t, place, wrote, found, nothing⟩

/-- An active job has just been accepted, or it was active before. -/
theorem origin_of_conduct (conduct : Conduct c call events response c')
    (current : c'.job = some job) (active : job.state.isTerminal = false) :
    (∃ source staged, call = .start source job.workDir ∧
      response = .started (.ok job.handle) ∧
      Preparation c.config source job.workDir events (.ok staged)) ∨
    ∃ before, c.job = some before ∧ before.state.isTerminal = false ∧ SameIdentity before job := by
  cases conduct with
  | busy | rejected | listed => exact .inr ⟨job, current, active, .refl job⟩
  | registered source workDir _ prepared =>
    cases current
    exact .inl ⟨source, _, rfl, rfl, prepared⟩
  | worked _ _ works =>
    cases works with
    | idle => exact .inr ⟨job, current, active, .refl job⟩
    | @busy before _ here chain =>
      cases current
      refine .inr ⟨before, here, ?_, chain.identity⟩
      by_contra ended
      have ended : before.state.isTerminal = true := by simpa using ended
      rw [(chain.of_terminal ended).1] at active
      simp [active] at ended

/-! ## Two jobs in one directory -/

theorem AcceptedBeside.later (accepted : AcceptedBeside r tree writes f steps i j a b)
    (early : SameIdentity a a') (late : SameIdentity b b') (step : ι × Call) :
    AcceptedBeside r tree writes f (steps ++ [step]) i j a' b' := by
  obtain ⟨before, source, rest, job, rfl, current, active, identity, started, vacant⟩ := accepted
  rw [AcceptedBeside, late.workDir, late.handle]
  exact ⟨before, source, rest ++ [step], job, by simp, current, active, identity.trans early,
    started, vacant⟩

/-- A call of one converter keeps what is known of two jobs in one directory. -/
theorem acceptedBeside_after (onDisk : OnDisk r tree writes)
    (known : ∀ before, ((f.run r steps).converters i).job = some before →
      before.state.isTerminal = false → AcceptedBeside r tree writes f steps i j before b ∨
        AcceptedBeside r tree writes f steps j i b before)
    (current : (((f.run r steps).after r (i, call)).converters i).job = some a)
    (active : a.state.isTerminal = false)
    (current' : ((f.run r steps).converters j).job = some b)
    (active' : b.state.isTerminal = false) :
    AcceptedBeside r tree writes f (steps ++ [(i, call)]) i j a b ∨
      AcceptedBeside r tree writes f (steps ++ [(i, call)]) j i b a := by
  have conduct := respond_conduct
    ((((f.run r steps).converters i).respond call).perform_course r (f.run r steps).world)
  rw [after_self] at current
  rcases origin_of_conduct conduct current active with
    ⟨source, staged, rfl, started, prepared⟩ | ⟨before, known', active'', identity⟩
  · have answers := Respondent.answers_perform r
      (((f.run r steps).converters i).respond (.start source a.workDir)) (f.run r steps).world
    have accepted : ((((f.run r steps).converters i).start source a.workDir).perform r
        (f.run r steps).world).value.1 = .ok a.handle := by
      rw [respond, Dialogue.perform_bind] at started
      exact Response.started.inj started
    exact .inr ⟨steps, source, [], b, rfl, current', active', .refl b, accepted,
      foundVacant_of_prepared onDisk prepared answers⟩
  · rcases known before known' active'' with accepted | accepted
    · exact .inl (accepted.later identity (.refl b) _)
    · exact .inr (accepted.later (.refl b) identity _)

theorem acceptedBeside_run (onDisk : OnDisk r tree writes)
    (fresh : ∀ k, (f.converters k).job = none) (other : i ≠ j)
    (current : ((f.run r steps).converters i).job = some a) (active : a.state.isTerminal = false)
    (current' : ((f.run r steps).converters j).job = some b)
    (active' : b.state.isTerminal = false) :
    AcceptedBeside r tree writes f steps i j a b ∨
      AcceptedBeside r tree writes f steps j i b a := by
  induction steps using List.reverseRecOn generalizing a b with
  | nil =>
    have none := fresh i
    rw [show f.run r [] = f from rfl, none] at current
    cases current
  | append_singleton steps step ih =>
    obtain ⟨k, call⟩ := step
    rw [run_append_singleton] at current current'
    by_cases first : k = i
    · subst first
      rw [after_of_ne other] at current'
      refine acceptedBeside_after onDisk ?_ current active current' active'
      intro before known active''
      exact ih known active'' current' active'
    · by_cases second : k = j
      · subst second
        rw [after_of_ne first] at current
        refine (acceptedBeside_after onDisk ?_ current' active' current active).symm
        intro before known active''
        exact (ih current active known active'').symm
      · rw [after_of_ne first] at current
        rw [after_of_ne second] at current'
        rcases ih current active current' active' with accepted | accepted
        · exact .inl (accepted.later (.refl a) (.refl b) _)
        · exact .inr (accepted.later (.refl b) (.refl a) _)

theorem coherent_run (fresh : ∀ k, (f.converters k).job = none) (steps : List (ι × Call)) :
    ∀ k, ((f.run r steps).converters k).Coherent := by
  induction steps using List.reverseRecOn with
  | nil =>
    intro k job current
    rw [show f.run r [] = f from rfl, fresh k] at current
    cases current
  | append_singleton steps step ih =>
    obtain ⟨i, call⟩ := step
    intro k
    rw [run_append_singleton]
    by_cases here : i = k
    · subst here
      rw [after_self]
      exact (ih i).conduct (respond_conduct (Dialogue.perform_course r _ _))
    · rw [after_of_ne here]
      exact ih k

/-- Of two jobs at work the later one has been accepted while the earlier one was at work already,
and at its working directory, be it that of the earlier job or another one, there was nothing then,
or an empty directory. If both have the same directory and one of them is given up, the other one
goes on, but the directory is gone unless its removal was refused. -/
theorem shared_directory_vacant_at_start {r : Surroundings σ} {tree : σ → FileTree}
    {writes : FileTree → FileTree → Prop} (onDisk : OnDisk r tree writes) (f : Fleet ι σ)
    (fresh : ∀ k, (f.converters k).job = none) (steps : List (ι × Call)) (i j : ι) (a b : Job)
    (other : i ≠ j) :
    let g := f.run r steps
    (g.converters i).job = some a → a.state.isTerminal = false →
    (g.converters j).job = some b → b.state.isTerminal = false →
    (AcceptedBeside r tree writes f steps i j a b ∨
      AcceptedBeside r tree writes f steps j i b a) ∧
    (a.workDir = b.workDir → ∀ call b', let h := g.after r (j, call)
      (h.converters j).job = some b' → b'.state.isGivenUp = true →
      (h.converters i).job = some a ∧
      ((∀ cause, .asked (.removeDirAll b.workDir) (.error cause) ∉
          (((g.converters j).respond call).perform r g.world).events) →
        (tree h.world).pathExists a.workDir = false)) := by
  intro g current active current' active'
  refine ⟨acceptedBeside_run onDisk fresh other current active current' active', ?_⟩
  intro same call b' h last givenUp
  have coherent : (g.converters j).Coherent := coherent_run fresh steps j
  rw [after_self] at last
  have surrender := respond_surrender coherent current' active' last givenUp
    (Dialogue.perform_course r _ _)
  refine ⟨by rw [after_of_ne other.symm, current], ?_⟩
  intro granted
  rw [same]
  exact surrender.gone onDisk (Respondent.answers_perform r _ _) granted

/-- A working directory could not be removed. -/
def refusesRemoval : ActEvent → Bool
  | .asked (.removeDirAll _) (.error _) => true
  | _ => false

/-- Two converters at work in a directory that the first one has made, and that was still empty when
the second one looked: when that one is cancelled, the first one goes on without it. -/
theorem empty_directory_shared :
    let talk := Path.ofString "talk.odp"
    let work := Path.ofString "work"
    let f : Fleet Bool FileTree :=
      ⟨fun _ => { config := {} }, FileTree.put {} [talk.bytes] (.file [1] false)⟩
    let steps := [(false, .start talk work), (true, .start talk work)]
    let g := f.run FileTree.surroundings steps
    let h := g.after FileTree.surroundings (true, .cancel ⟨1⟩)
    ∃ a b, (g.converters false).job = some a ∧ a.state.isTerminal = false ∧
      (g.converters true).job = some b ∧ b.state.isTerminal = false ∧ a.workDir = b.workDir ∧
      (AcceptedBeside FileTree.surroundings id (fun t t' => t' = t) f steps false true a b ∨
        AcceptedBeside FileTree.surroundings id (fun t t' => t' = t) f steps true false b a) ∧
      (h.converters false).job = some a ∧ h.world.pathExists work = false := by
  intro talk work f steps g h
  have first : (g.converters false).activeJob?.map (·.workDir) = some work := by decide +kernel
  have second : (g.converters true).activeJob?.map (·.workDir) = some work := by decide +kernel
  have last : (h.converters true).job.map (·.state) = some .cancelled := by decide +kernel
  have removed : (((g.converters true).respond (.cancel ⟨1⟩)).perform FileTree.surroundings
      g.world).events.any refusesRemoval = false := by decide +kernel
  -- all that had to be computed has been
  have ran : g = f.run FileTree.surroundings steps := rfl
  have cancelled : h = g.after FileTree.surroundings (true, .cancel ⟨1⟩) := rfl
  clear_value h g
  subst cancelled
  subst ran
  obtain ⟨a, current, place⟩ := Option.map_eq_some_iff.mp first
  obtain ⟨b, current', place'⟩ := Option.map_eq_some_iff.mp second
  obtain ⟨b', known, state⟩ := Option.map_eq_some_iff.mp last
  obtain ⟨current, active⟩ := activeJob?_eq_some.mp current
  obtain ⟨current', active'⟩ := activeJob?_eq_some.mp current'
  have givenUp : b'.state.isGivenUp = true := by
    rw [state]
    rfl
  have granted : ∀ cause, .asked (.removeDirAll b.workDir) (.error cause) ∉
      ((((f.run FileTree.surroundings steps).converters true).respond (.cancel ⟨1⟩)).perform
        FileTree.surroundings (f.run FileTree.surroundings steps).world).events := by
    intro cause refused
    exact List.any_eq_false.mp removed _ refused rfl
  have same : a.workDir = b.workDir := place.trans place'.symm
  have onDisk := FileTree.onDisk (fun t t' => t' = t) fun _ => rfl
  have shared := shared_directory_vacant_at_start onDisk f (fun _ => rfl) steps false true a b
    (by decide) current active current' active'
  obtain ⟨goes_on, gone⟩ := shared.2 same (.cancel ⟨1⟩) b' known givenUp
  have gone := gone granted
  rw [place] at gone
  exact ⟨a, b, current, active, current', active', same, shared.1, goes_on, gone⟩

/-- Two converters take on the same document in the same directory, which the first one has made
and nobody has put anything into; when the second one is cancelled the directory is gone for both.
Later a directory is taken twice that holds nothing because it has been removed with the one
around it. -/
theorem converters_share_directories :
    let talk := Path.ofString "talk.odp"
    let f : Fleet Bool FileTree :=
      ⟨fun _ => { config := {} }, FileTree.put {} [talk.bytes] (.file [1] false)⟩
    let g := f.run FileTree.surroundings
      [(false, .start talk (.ofString "work")), (true, .start talk (.ofString "work"))]
    let h := g.after FileTree.surroundings (true, .cancel ⟨1⟩)
    let nested := f.run FileTree.surroundings
      [(true, .start talk (.ofString "a")), (false, .start talk (.ofString "a/b")),
        (true, .cancel ⟨1⟩), (true, .start talk (.ofString "a/b"))]
    (∀ i, (g.converters i).activeJob?.map (·.workDir) = some (.ofString "work")) ∧
      g.world.pathExists (.ofString "work") = true ∧
      (h.converters false).activeJob?.map (·.workDir) = some (.ofString "work") ∧
      h.world.pathExists (.ofString "work") = false ∧
      ∀ i, (nested.converters i).activeJob?.map (·.workDir) = some (.ofString "a/b") := by
  decide +kernel

end Fleet

end SlideConverter

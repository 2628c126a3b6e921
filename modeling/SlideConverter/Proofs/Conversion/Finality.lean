import SlideConverter.Proofs.Conversion.Cleanup
import SlideConverter.Rehearsal.World

/-!
# Jobs that have ended

A job that has finished, failed or been cancelled stays as it is until the next one is accepted,
whatever is called in between and however those calls go. Every call says so in its own way, and
none of them asks anything of a tool; the disk is asked by starts that are refused and for the
list of slides, and by nothing else.
-/

namespace SlideConverter

/-- A document, and two tools that do their work. -/
def Rehearsal.slides : Rehearsal.World where
  disk := { entries := [{ path := .ofString "talk.odp", isDir := false }] }
  script := [
    { waits := [.exit 0], creates := [{ path := .ofString "work/talk.pdf", isDir := false }] },
    { waits := [.running, .exit 0],
      creates := [{ path := .ofString "work/slide-0.jpg", isDir := false }] }]

/-- Calls that convert the document. -/
def Rehearsal.conversion : List Call :=
  .start (.ofString "talk.odp") (.ofString "work") :: List.replicate 4 (.poll ⟨1⟩)

namespace Converter

variable {c c' : Converter} {call : Call} {events : List ActEvent} {response : Response} {job : Job}
  {handle : JobHandle}

/-- What a converter responds whose job has ended, and what is asked for that. Where the call is
about another job only the silence is said. -/
def Resting (c : Converter) (job : Job) (response : Response) (events : List ActEvent) : Call → Prop
  | .start _ _ => ∃ error, response = .started (.error error)
  | .poll handle =>
    events = [] ∧ (handle = job.handle → response = .polled (.ok (.ofState job.state)))
  | .cancel handle => events = [] ∧ (handle = job.handle → response = .cancelled (.ok ()))
  | .collectSlides handle =>
    if handle = job.handle ∧ job.state = .finished ∧ c.patternRefusal? = none then
      ∃ answer, events = [.asked (.listDir job.workDir) answer]
    else events = []
  | .state handle => events = [] ∧ (handle = job.handle → response = .state (.ok job.state))
  | .workDir handle => events = [] ∧ (handle = job.handle → response = .workDir (.ok job.workDir))
  | .report handle => events = [] ∧ (handle = job.handle → response = .report (.ok job.report))
  | .run handle _ _ maxTicks =>
    (∃ time, events = [.asked .clock time]) ∧
      (handle = job.handle → 0 < maxTicks → response = .ran (some (.ok (.ofState job.state))))
  | .close => events = []

theorem find?_of_current (current : c.job = some job) :
    c.find? handle = if handle = job.handle then some job else none := by
  simp [find?, current, Option.filter, eq_comm]

theorem inspect_of_current {α : Type} (current : c.job = some job) (f : Job → α) :
    c.inspect job.handle f = .ok (f job) := by
  simp [inspect, find?_of_current current]

/-- A poll of a job that has ended only tells how. -/
theorem Poll.of_terminal {result : Except ConversionError PollResult}
    (current : c.job = some job) (ended : job.state.isTerminal = true)
    (poll : Poll c handle events result c') : c' = c ∧ events = [] ∧
      (if handle = job.handle then result = .ok (.ofState job.state)
        else result = .error (.usage (.unknownJob handle))) := by
  cases poll with
  | unknown absent =>
    rw [find?_of_current current] at absent
    split at absent
    · cases absent
    · rename_i other
      exact ⟨rfl, rfl, by rw [if_neg other]⟩
  | ended known =>
    rw [find?_of_current current] at known
    split at known
    · rename_i same
      cases known
      exact ⟨rfl, rfl, by rw [if_pos same]⟩
    · cases known
  | turned known active =>
    obtain ⟨here, -⟩ := find?_eq_some.mp known
    rw [current] at here
    cases here
    simp [ended] at active

theorem Cancel.of_terminal {result : Except ConversionError Unit}
    (current : c.job = some job) (ended : job.state.isTerminal = true)
    (cancel : Cancel c handle events result c') :
    events = [] ∧ (handle = job.handle → result = .ok ()) := by
  cases cancel with
  | unknown absent =>
    rw [find?_of_current current] at absent
    refine ⟨rfl, ?_⟩
    intro same
    simp [same] at absent
  | ended => exact ⟨rfl, fun _ => rfl⟩
  | aborted known active =>
    obtain ⟨here, -⟩ := find?_eq_some.mp known
    rw [current] at here
    cases here
    simp [ended] at active

/-- The first poll of a run is the last one. -/
theorem Run.of_terminal {interval started : Duration} {deadline : Option Duration} {ticks : Nat}
    {result : Option (Except ConversionError PollResult)} (current : c.job = some job)
    (ended : job.state.isTerminal = true)
    (run : Run handle interval deadline started ticks c events result c') :
    events = [] ∧
      (handle = job.handle → 0 < ticks → result = some (.ok (.ofState job.state))) := by
  have going_on : ∀ {c' events} {result : PollResult}, Poll c handle events (.ok result) c' →
      result.isTerminal = true := by
    intro c' events result poll
    obtain ⟨-, -, said⟩ := poll.of_terminal current ended
    split at said
    · cases said
      rw [PollResult.isTerminal_ofState, ended]
    · cases said
  cases run with
  | exhausted => exact ⟨rfl, nofun⟩
  | refused poll =>
    obtain ⟨-, silent, said⟩ := poll.of_terminal current ended
    refine ⟨silent, ?_⟩
    intro same
    simp [same] at said
  | ended poll =>
    obtain ⟨-, silent, said⟩ := poll.of_terminal current ended
    refine ⟨silent, ?_⟩
    intro same _
    simpa [same] using said
  | late poll going => simp [going_on poll] at going
  | again poll going => simp [going_on poll] at going

theorem Collect.of_current {result : Except ConversionError SlideCollection}
    (current : c.job = some job) (collect : Collect c handle events result) :
    if handle = job.handle ∧ job.state = .finished ∧ c.patternRefusal? = none then
      ∃ answer, events = [.asked (.listDir job.workDir) answer]
    else events = [] := by
  cases collect with
  | unknown absent =>
    rw [find?_of_current current] at absent
    split at absent
    · cases absent
    · rename_i other
      rw [if_neg fun both => other both.1]
  | early known other =>
    obtain ⟨here, -⟩ := find?_eq_some.mp known
    rw [current] at here
    cases here
    rw [if_neg fun all => other all.2.1]
  | unmatched known finished refused =>
    rw [if_neg fun all => Option.some_ne_none _ (refused.symm.trans all.2.2)]
  | unlistable known finished matched | collected known finished matched =>
    obtain ⟨here, named⟩ := find?_eq_some.mp known
    rw [current] at here
    cases here
    rw [if_pos ⟨named.symm, finished, matched⟩]
    exact ⟨_, rfl⟩

theorem respond_of_terminal (current : c.job = some job) (ended : job.state.isTerminal = true)
    (silent : response.registers = false)
    (course : (c.respond call).Course events (response, c')) :
    Resting c job response events call := by
  cases call with
  | start source workDir =>
    obtain ⟨⟨result, next⟩, -, same⟩ := Dialogue.course_reshape course fun _ => rfl
    cases same
    cases result with
    | error error => exact ⟨error, rfl⟩
    | ok handle => cases silent
  | poll handle =>
    obtain ⟨_, polled, same⟩ := Dialogue.course_reshape course fun _ => rfl
    cases same
    obtain ⟨-, nothing, said⟩ := (poll_course polled).of_terminal current ended
    refine ⟨nothing, ?_⟩
    intro same
    rw [if_pos same] at said
    rw [said]
  | cancel handle =>
    obtain ⟨_, cancelled, same⟩ := Dialogue.course_reshape course fun _ => rfl
    cases same
    obtain ⟨nothing, said⟩ := (cancel_course cancelled).of_terminal current ended
    exact ⟨nothing, fun same => by rw [said same]⟩
  | collectSlides handle =>
    obtain ⟨_, collected, -⟩ := Dialogue.course_reshape course fun _ => rfl
    exact (collect_course collected).of_current current
  | state handle =>
    obtain ⟨nothing, same⟩ := Dialogue.course_pure.mp course
    cases same
    refine ⟨nothing, ?_⟩
    rintro rfl
    rw [state, inspect_of_current current]
  | workDir handle =>
    obtain ⟨nothing, same⟩ := Dialogue.course_pure.mp course
    cases same
    refine ⟨nothing, ?_⟩
    rintro rfl
    rw [workDir, inspect_of_current current]
  | report handle =>
    obtain ⟨nothing, same⟩ := Dialogue.course_pure.mp course
    cases same
    refine ⟨nothing, ?_⟩
    rintro rfl
    rw [report, inspect_of_current current]
  | run handle interval deadline maxTicks =>
    obtain ⟨_, ran, same⟩ := Dialogue.course_reshape course fun _ => rfl
    cases same
    obtain ⟨time, rest, rfl, ticked⟩ := course_ask_bind.mp ran
    obtain ⟨rfl, said⟩ := (run_course ticked).of_terminal current ended
    exact ⟨⟨time, rfl⟩, fun same some => by rw [said same some]⟩
  | close =>
    obtain ⟨_, closed, -⟩ := Dialogue.course_reshape course fun _ => rfl
    cases close_course closed with
    | quiet => rfl
    | dropped here active =>
      rw [current] at here
      cases here
      simp [ended] at active

/-- Whatever is called, the converter stays as it is, and tools are left alone. -/
theorem Conduct.of_terminal (current : c.job = some job) (ended : job.state.isTerminal = true)
    (silent : response.registers = false) (conduct : Conduct c call events response c') :
    c' = c ∧ toolCalls events = [] := by
  cases conduct with
  | busy => exact ⟨rfl, rfl⟩
  | rejected _ _ _ prepared => exact ⟨rfl, prepared.toolCalls_eq_nil⟩
  | registered => cases silent
  | listed => exact ⟨rfl, rfl⟩
  | worked _ _ works =>
    obtain ⟨same, pauses⟩ := works.of_terminal current ended
    refine ⟨same, ?_⟩
    exact List.filterMap_eq_nil_iff.mpr fun e there => (pauses e there).toolCall?_eq_none

/-- While no other job is accepted, every exchange leaves the converter as it is. -/
theorem Linked.of_terminal {σ : Type} {r : Surroundings σ} {s s' : σ}
    {exchanges : List (Exchange σ)} (linked : History.Linked r c s exchanges c' s')
    (current : c.job = some job) (ended : job.state.isTerminal = true)
    (silent : ∀ e ∈ exchanges, e.response.registers = false) :
    c' = c ∧ ∀ e ∈ exchanges, e.before = c ∧ e.after = c ∧ toolCalls e.events = [] ∧
      Resting c job e.response e.events e.call := by
  induction exchanges generalizing s with
  | nil =>
    obtain ⟨rfl, -⟩ := linked
    exact ⟨rfl, by simp⟩
  | cons e rest ih =>
    obtain ⟨same, performed, later⟩ := linked
    obtain ⟨silentHere, silentLater⟩ := List.forall_mem_cons.mp silent
    have genuine := History.genuine_of_perform same performed
    rw [History.Genuine, same] at genuine
    obtain ⟨unchanged, untouched⟩ :=
      (respond_conduct genuine).of_terminal current ended silentHere
    have resting := respond_of_terminal current ended silentHere genuine
    rw [unchanged] at later
    obtain ⟨last, each⟩ := ih later silentLater
    exact ⟨last, List.forall_mem_cons.mpr ⟨⟨same, unchanged, untouched, resting⟩, each⟩⟩

/-- From any moment at which the job has ended, and until another one is accepted, nothing of the
converter changes, no tool is started, waited for or killed, and every call only tells how the job
has ended. The disk is asked by refused starts, and once for each list of slides if there is a
pattern for their names. -/
theorem terminal_job_unchanged {σ : Type} (r : Surroundings σ) (config : Config)
    (compiler : PatternCompiler) (calls more : List Call) (s : σ) :
    let h := History.of r calls { config, compiler } s
    let later := History.of r more h.converter h.world
    ∀ job, h.converter.job = some job → job.state.isTerminal = true →
      (∀ e ∈ later.exchanges, e.response.registers = false) →
      later.converter = h.converter ∧
      ∀ e ∈ later.exchanges, e.before = h.converter ∧ e.after = h.converter ∧
        toolCalls e.events = [] ∧ Resting h.converter job e.response e.events e.call := by
  intro h later job current ended silent
  exact Linked.of_terminal (History.of_linked r more h.converter h.world) current ended silent

/-- After a rehearsal that has finished, a cancel, a start that is refused, a look at the slides and
a close change nothing. -/
theorem rehearsed_finished_job_unchanged :
    let h := History.of Rehearsal.surroundings Rehearsal.conversion { config := {} }
      Rehearsal.slides
    let later := History.of Rehearsal.surroundings
      [.cancel ⟨1⟩, .start (.ofString "none.pdf") (.ofString "work"), .collectSlides ⟨1⟩, .close]
      h.converter h.world
    ∃ job, h.converter.job = some job ∧ job.state = .finished ∧
      (∀ e ∈ later.exchanges, e.response.registers = false) ∧ later.converter = h.converter ∧
      ∀ e ∈ later.exchanges, e.before = h.converter ∧ e.after = h.converter ∧
        toolCalls e.events = [] ∧ Resting h.converter job e.response e.events e.call := by
  intro h later
  have state : h.converter.job.map (·.state) = some .finished := by decide +kernel
  have silent : ∀ e ∈ later.exchanges, e.response.registers = false := by decide +kernel
  obtain ⟨job, current, finished⟩ := Option.map_eq_some_iff.mp state
  have ended : job.state.isTerminal = true := by
    rw [finished]
    rfl
  have rests := terminal_job_unchanged Rehearsal.surroundings {} .standard Rehearsal.conversion _
    Rehearsal.slides job current ended silent
  exact ⟨job, current, finished, silent, rests⟩

end Converter

end SlideConverter

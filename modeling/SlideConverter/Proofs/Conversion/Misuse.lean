import SlideConverter.Proofs.Conversion.Deadline
import SlideConverter.Proofs.Conversion.Refusal

/-!
# Calls that make no sense

A call makes no sense if it names a job that is not the current one, asks for the slides of a job
that has not finished, or brings a job while another one is at work. Such a call is answered by a
misuse and by nothing else, and a history without these calls is the same history in all that is
left. Handles are numbered through, so a handle that has been replaced never comes back.
-/

namespace SlideConverter

/-- Why a call was refused. -/
def Response.error? : Response → Option ConversionError
  | .started (.error error) | .polled (.error error) | .cancelled (.error error)
  | .slides (.error error) | .state (.error error) | .workDir (.error error)
  | .report (.error error) | .ran (some (.error error)) => some error
  | _ => none

def Response.isMisuse (response : Response) : Bool :=
  match response.error? with
  | some (.usage _) => true
  | _ => false

/-- The handle that a start gives out. -/
def Response.handle? : Response → Option JobHandle
  | .started (.ok handle) => some handle
  | _ => none

/-- All of an exchange but the state of the surroundings. -/
def Exchange.content {σ : Type} (e : Exchange σ) :
    Converter × Call × Response × List ActEvent × Converter :=
  (e.before, e.call, e.response, e.events, e.after)

/-- What happens in a call that makes no sense. A run reads the clock before it looks at the job. -/
inductive Dismissal : Call → List ActEvent → Prop
  | silent (call : Call) : Dismissal call []
  | run (handle : JobHandle) (interval : Duration) (deadline : Option Duration) (maxTicks : Nat)
      (time : Duration) : Dismissal (.run handle interval deadline maxTicks) [.asked .clock time]

theorem Dismissal.requests_eq_nil {call : Call} {events : List ActEvent}
    (dismissal : Dismissal call events) : requests events = [] := by
  cases dismissal <;> rfl

namespace Converter

/-- The call makes no sense now. -/
def Misused (c : Converter) : Call → Prop
  | .start _ _ => ∃ job, c.job = some job ∧ job.state.isTerminal = false
  | .collectSlides handle => ∀ job, c.find? handle = some job → job.state ≠ .finished
  | .poll handle | .cancel handle | .state handle | .workDir handle | .report handle =>
    c.find? handle = none
  | .run handle _ _ maxTicks => c.find? handle = none ∧ 0 < maxTicks
  | .close => False

variable {c c' : Converter} {handle : JobHandle} {events : List ActEvent} {call : Call}
  {response : Response}

/-! ## One call -/

theorem Conduct.misuse_of_start {source workDir : Path} {result : Except ConversionError JobHandle}
    (conduct : Conduct c (.start source workDir) events (.started result) c') :
    ((Response.started result).isMisuse = true ↔ Misused c (.start source workDir)) ∧
      ((Response.started result).isMisuse = true → c' = c ∧ events = []) := by
  have atWork : Misused c (.start source workDir) → c.activeJob? ≠ none := by
    rintro ⟨job, active⟩ idle
    simp [activeJob?_eq_some.mpr active] at idle
  cases conduct with
  | @busy _ _ job active =>
    have misused : Misused c (.start source workDir) := ⟨job, activeJob?_eq_some.mp active⟩
    exact ⟨⟨fun _ => misused, fun _ => rfl⟩, fun _ => ⟨rfl, rfl⟩⟩
  | @rejected _ _ _ error idle prepared =>
    have other : (Response.started (.error error)).isMisuse = false := by
      cases error with
      | usage misuse => exact absurd rfl (prepared.not_usage misuse)
      | invalidInput | filesystem => rfl
    have fits : ¬ Misused c (.start source workDir) := fun misused => atWork misused idle
    simp [other, fits]
  | registered _ _ idle =>
    have fits : ¬ Misused c (.start source workDir) := fun misused => atWork misused idle
    simp [Response.isMisuse, Response.error?, fits]
  | worked other => cases other

theorem Run.of_absent {interval started : Duration} {deadline : Option Duration} {ticks : Nat}
    {result : Option (Except ConversionError PollResult)} (absent : c.find? handle = none)
    (run : Run handle interval deadline started ticks c events result c') :
    events = [] ∧ c' = c ∧
      result = if 0 < ticks then some (.error (.usage (.unknownJob handle))) else none := by
  have unlooked : ∀ {polling seen between}, ¬ Poll c handle polling (.ok seen) between := by
    intro polling seen between poll
    obtain ⟨job, known⟩ := poll.known_before
    simp [absent] at known
  cases run with
  | exhausted => exact ⟨rfl, rfl, rfl⟩
  | refused poll =>
    cases poll with
    | unknown => exact ⟨rfl, rfl, by simp⟩
  | ended poll => exact absurd poll unlooked
  | late poll => exact absurd poll unlooked
  | again poll => exact absurd poll unlooked

/-- A call is answered by a misuse exactly if it makes no sense, and then nothing happens. -/
theorem misuse_of_course (course : (c.respond call).Course events (response, c')) :
    (response.isMisuse = true ↔ Misused c call) ∧
      (response.isMisuse = true → c' = c ∧ Dismissal call events) := by
  cases call with
  | start source workDir =>
    obtain ⟨_, started, same⟩ := Dialogue.course_reshape course fun _ => rfl
    cases same
    obtain ⟨misused, dismissed⟩ := (start_conduct started).misuse_of_start
    refine ⟨misused, fun misuse => ?_⟩
    obtain ⟨same, rfl⟩ := dismissed misuse
    exact ⟨same, .silent _⟩
  | poll handle =>
    obtain ⟨⟨result, after⟩, polled, same⟩ := Dialogue.course_reshape course fun _ => rfl
    cases same
    cases poll_course polled with
    | unknown absent => exact ⟨⟨fun _ => absent, fun _ => rfl⟩, fun _ => ⟨rfl, .silent _⟩⟩
    | ended known => simp [Response.isMisuse, Response.error?, Misused, known]
    | turned known => simp [Response.isMisuse, Response.error?, Misused, known]
  | cancel handle =>
    obtain ⟨⟨result, after⟩, cancelled, same⟩ := Dialogue.course_reshape course fun _ => rfl
    cases same
    cases cancel_course cancelled with
    | unknown absent => exact ⟨⟨fun _ => absent, fun _ => rfl⟩, fun _ => ⟨rfl, .silent _⟩⟩
    | ended known => simp [Response.isMisuse, Response.error?, Misused, known]
    | aborted known => simp [Response.isMisuse, Response.error?, Misused, known]
  | collectSlides handle =>
    obtain ⟨_, collected, same⟩ := Dialogue.course_reshape course fun _ => rfl
    cases same
    cases collect_course collected with
    | unknown absent =>
      have misused : Misused c (.collectSlides handle) := by simp [Misused, absent]
      exact ⟨⟨fun _ => misused, fun _ => rfl⟩, fun _ => ⟨rfl, .silent _⟩⟩
    | early known other =>
      have misused : Misused c (.collectSlides handle) := by simpa [Misused, known] using other
      exact ⟨⟨fun _ => misused, fun _ => rfl⟩, fun _ => ⟨rfl, .silent _⟩⟩
    | unmatched known finished | unlistable known finished | collected known finished =>
      simp [Response.isMisuse, Response.error?, Misused, known, finished]
  | state handle | workDir handle | report handle =>
    obtain ⟨rfl, same⟩ := Dialogue.course_pure.mp course
    cases same
    cases known : c.find? handle <;>
      simp [Response.isMisuse, Response.error?, Misused, state, workDir, report, inspect, known,
        Dismissal.silent]
  | run handle interval deadline maxTicks =>
    obtain ⟨⟨result, after⟩, ran, same⟩ := Dialogue.course_reshape course fun _ => rfl
    cases same
    obtain ⟨time, ticking, rfl, ticked⟩ := course_ask_bind.mp ran
    have run := run_course ticked
    by_cases absent : c.find? handle = none
    · obtain ⟨rfl, rfl, said⟩ := run.of_absent absent
      refine ⟨?_, fun _ => ⟨rfl, .run _ _ _ _ _⟩⟩
      by_cases some : 0 < maxTicks
      · simp [said, some, absent, Misused, Response.isMisuse, Response.error?]
      · simp [said, some, Misused, Response.isMisuse, Response.error?]
    · have answered : (Response.ran result).isMisuse = false := by
        rcases result with _ | error | _
        · rfl
        · exact absurd (run.error_iff.1.mp ⟨error, rfl⟩) absent
        · rfl
      simp [answered, absent, Misused]
  | close =>
    obtain ⟨_, closed, same⟩ := Dialogue.course_reshape course fun _ => rfl
    cases same
    simp [Response.isMisuse, Response.error?, Misused]

/-- A start that is refused leaves the converter as it was. -/
theorem unchanged_of_refused {error : ConversionError}
    (course : (c.respond call).Course events (.started (.error error), c')) : c' = c := by
  cases call with
  | start source workDir =>
    obtain ⟨⟨result, after⟩, started, same⟩ := Dialogue.course_reshape course fun _ => rfl
    cases same
    cases start_conduct started with
    | busy | rejected => rfl
    | worked other => cases other
  | poll | cancel | collectSlides | run | close =>
    obtain ⟨_, -, same⟩ := Dialogue.course_reshape course fun _ => rfl
    cases same
  | state | workDir | report =>
    obtain ⟨-, same⟩ := Dialogue.course_pure.mp course
    cases same

/-! ## Handles -/

/-- The handles given out so far are numbered through, and the last one is that of the job. -/
structure Numbered (given : List JobHandle) (c : Converter) : Prop where
  consecutive : given = (List.range given.length).map fun i => ⟨UInt64.ofNat (i + 1)⟩
  next : c.nextId = UInt64.ofNat (given.length + 1)
  current : c.job.map (·.handle) = given.getLast?

theorem Conduct.handle?_eq_none (conduct : Conduct c call events response c')
    (other : call.isStart = false) : response.handle? = none := by
  cases conduct with
  | busy | rejected | registered => cases other
  | listed => rfl
  | worked _ silent =>
    cases response with
    | started result => cases result <;> simp_all [Response.handle?, Response.registers]
    | _ => rfl

theorem numbered_initial (config : Config) (compiler : PatternCompiler) :
    Numbered [] { config, compiler } := ⟨rfl, rfl, rfl⟩

theorem Numbered.conduct {given : List JobHandle} (numbered : Numbered given c)
    (conduct : Conduct c call events response c') :
    Numbered (given ++ response.handle?.toList) c' := by
  cases conduct with
  | busy | rejected | listed => simpa [Response.handle?] using numbered
  | registered source workDir _ prepared =>
    have handle : (⟨c.nextId⟩ : JobHandle) = ⟨UInt64.ofNat (given.length + 1)⟩ := by
      rw [numbered.next]
    refine ⟨?_, ?_, ?_⟩
    · simp only [Response.handle?, Option.toList_some, List.length_append, List.length_singleton,
        List.range_succ, List.map_append, List.map_singleton, handle]
      rw [← numbered.consecutive]
    · simp [Response.handle?, register, numbered.next, UInt64.ofNat_add]
    · simp [Response.handle?, register]
  | worked other silent works =>
    have none := (Conduct.worked other silent works).handle?_eq_none other
    rw [none, Option.toList_none, List.append_nil]
    cases works with
    | idle => exact numbered
    | busy current chain =>
      have same := numbered.current
      rw [current, Option.map_some, ← chain.identity.handle] at same
      exact ⟨numbered.consecutive, numbered.next, same⟩

/-- Handles are all different while there are fewer than numbers for them. -/
theorem Numbered.nodup {given : List JobHandle} (numbered : Numbered given c)
    (few : given.length < UInt64.size) : given.Nodup := by
  rw [numbered.consecutive]
  refine List.pairwise_map.mpr (List.pairwise_lt_range.imp_of_mem ?_)
  intro i j _ below less same
  rw [List.mem_range] at below
  have ids := congrArg (fun handle : JobHandle => handle.id.toNat) same
  change (UInt64.ofNat (i + 1)).toNat = (UInt64.ofNat (j + 1)).toNat at ids
  rw [UInt64.toNat_ofNat_of_lt' (by omega), UInt64.toNat_ofNat_of_lt' (by omega)] at ids
  omega

end Converter

namespace History

open Converter

variable {σ : Type} {r : Surroundings σ} {c c' : Converter} {s s' : σ}
  {exchanges : List (Exchange σ)}

/-- The handles that are given out in the course of some exchanges. -/
def handles (exchanges : List (Exchange σ)) : List JobHandle :=
  exchanges.filterMap (·.response.handle?)

/-- The exchanges whose calls make sense. -/
def sensible (exchanges : List (Exchange σ)) : List (Exchange σ) :=
  exchanges.filter (!·.response.isMisuse)

theorem Linked.numbered {given : List JobHandle} (numbered : Numbered given c)
    (linked : Linked r c s exchanges c' s') : Numbered (given ++ handles exchanges) c' := by
  induction exchanges generalizing given c s with
  | nil =>
    obtain ⟨rfl, -⟩ := linked
    simpa [handles] using numbered
  | cons e rest ih =>
    obtain ⟨conduct, later⟩ := Linked.conduct linked
    have next := ih (numbered.conduct conduct) later
    cases given' : e.response.handle? <;> simpa [handles, given'] using next

theorem handles_cons (e : Exchange σ) (rest : List (Exchange σ)) :
    handles (e :: rest) = e.response.handle?.toList ++ handles rest := by
  cases given : e.response.handle? <;> simp [handles, given]

/-- No more handles are given out than there are starts. -/
theorem Linked.length_handles (linked : Linked r c s exchanges c' s') :
    (handles exchanges).length ≤ (exchanges.map (·.call)).countP Call.isStart := by
  induction exchanges generalizing c s with
  | nil => simp [handles]
  | cons e rest ih =>
    obtain ⟨conduct, later⟩ := Linked.conduct linked
    have bound := ih later
    rw [handles_cons, List.length_append, List.map_cons, List.countP_cons]
    by_cases start : e.call.isStart = true
    · have one : e.response.handle?.toList.length ≤ 1 := by
        cases e.response.handle? <;> simp
      simp only [start, if_true]
      omega
    · have none := conduct.handle?_eq_none (by simpa using start)
      simp only [none, start, Option.toList_none, List.length_nil]
      omega

/-! ## Leaving calls out -/

/-- Linked exchanges are the history of their calls. -/
theorem of_eq_of_linked (linked : Linked r c s exchanges c' s') :
    of r (exchanges.map (·.call)) c s = ⟨exchanges, c', s'⟩ := by
  induction exchanges generalizing c s with
  | nil =>
    obtain ⟨rfl, rfl⟩ := linked
    rfl
  | cons e rest ih =>
    obtain ⟨rfl, performed, later⟩ := linked
    rw [List.map_cons, of, performed, ih later]

/-- Exchanges that lead from one converter to another, whoever answers. -/
def Leads : Converter → List (Exchange σ) → Converter → Prop
  | c, [], c' => c' = c
  | c, e :: rest, c' => e.before = c ∧ Genuine e ∧ Leads e.after rest c'

/-- Surroundings that answer as in some exchanges bring about just these. -/
theorem Leads.of_answers {τ : Type} {r' : Surroundings τ} {t t' : τ} (leads : Leads c exchanges c')
    (answers : r'.Answers t (exchanges.flatMap (·.events)) t') :
    let h := of r' (exchanges.map (·.call)) c t
    h.exchanges.map (·.content) = exchanges.map (·.content) ∧ h.converter = c' ∧ h.world = t' := by
  induction exchanges generalizing c t with
  | nil => exact ⟨rfl, leads.symm, answers.symm⟩
  | cons e rest ih =>
    obtain ⟨rfl, genuine, later⟩ := leads
    obtain ⟨between, here, onward⟩ := Respondent.answers_append.mp answers
    have performed := Respondent.perform_of_answers genuine here
    obtain ⟨contents, converter, world⟩ := ih later onward
    simp only [of, List.map_cons, performed]
    exact ⟨by rw [contents]; rfl, converter, world⟩

theorem sensible_cons (e : Exchange σ) (rest : List (Exchange σ)) :
    sensible (e :: rest) = if e.response.isMisuse then sensible rest else e :: sensible rest := by
  cases misuse : e.response.isMisuse <;> simp [sensible, misuse]

theorem Linked.leads_sensible (linked : Linked r c s exchanges c' s') :
    Leads c (sensible exchanges) c' := by
  induction exchanges generalizing c s with
  | nil => exact linked.1
  | cons e rest ih =>
    obtain ⟨rfl, performed, later⟩ := linked
    have genuine := genuine_of_perform rfl performed
    have leads := ih later
    rw [sensible_cons]
    split
    · rename_i misuse
      obtain ⟨same, -⟩ := (misuse_of_course genuine).2 misuse
      rwa [same] at leads
    · exact ⟨rfl, genuine, leads⟩

/-- Where looking at the clock does not count, exchanges stay linked. -/
theorem Linked.sensible (linked : Linked r c s exchanges c' s')
    (still : ∀ e ∈ exchanges, e.response.isMisuse = true →
      e.events = [] ∨ ∀ s, (r.answer .clock s).2 = s) :
    Linked r c s (sensible exchanges) c' s' := by
  induction exchanges generalizing c s with
  | nil => exact linked
  | cons e rest ih =>
    obtain ⟨rfl, performed, later⟩ := linked
    obtain ⟨here, after⟩ := List.forall_mem_cons.mp still
    have linked := ih later after
    rw [sensible_cons]
    split
    · rename_i misuse
      obtain ⟨same, dismissal⟩ := (misuse_of_course (genuine_of_perform rfl performed)).2 misuse
      have answers := Respondent.answers_perform r (e.before.respond e.call) s
      rw [performed] at answers
      have unchanged : e.world = s := by
        rcases here misuse with silent | steady
        · rw [silent] at answers
          exact answers
        · generalize e.call = call, e.events = events at dismissal answers
          cases dismissal with
          | silent => exact answers
          | run => exact answers.2.trans (steady s)
      rwa [same, unchanged] at linked
    · exact ⟨rfl, performed, linked⟩

theorem requests_sensible (silent : ∀ e ∈ exchanges, e.response.isMisuse = true →
      requests e.events = []) :
    requests ((History.sensible exchanges).flatMap (·.events)) =
      requests (exchanges.flatMap (·.events)) := by
  induction exchanges with
  | nil => rfl
  | cons e rest ih =>
    obtain ⟨here, later⟩ := List.forall_mem_cons.mp silent
    have same := ih later
    rw [sensible_cons, List.flatMap_cons, requests_append]
    split
    · rename_i misuse
      rw [here misuse, same, List.nil_append]
    · rw [List.flatMap_cons, requests_append, same]

end History

namespace Converter

open History

/-- A call is answered by a misuse exactly if it makes no sense: if it names a job other than the
one accepted last, asks for slides too early or starts a job beside another one. Then nothing
changes and nothing is asked, but for a run that looks at the clock. Without these calls everything
is the same: in all surroundings that answer the rest alike the same is asked and answered, with the
same converter in the end, and the surroundings are the same as well where a look at the clock
leaves them alone. A start that is refused leaves the job of before to be asked for. -/
theorem misuse_changes_nothing {σ : Type} (r : Surroundings σ) (config : Config)
    (compiler : PatternCompiler) (calls : List Call) (s : σ) :
    let h := History.of r calls { config, compiler } s
    let kept := sensible h.exchanges
    (calls.countP Call.isStart < UInt64.size → (handles h.exchanges).Nodup) ∧
    (∀ before e after, h.exchanges = before ++ e :: after → ∀ handle,
      (∃ job, e.before.find? handle = some job) ↔ (handles before).getLast? = some handle) ∧
    (∀ e ∈ h.exchanges, (e.response.isMisuse = true ↔ Misused e.before e.call) ∧
      (e.response.isMisuse = true → e.after = e.before ∧ Dismissal e.call e.events)) ∧
    (∀ {τ : Type} (r' : Surroundings τ) (t t' : τ), r'.Answers t (kept.flatMap (·.events)) t' →
      let h' := History.of r' (kept.map (·.call)) { config, compiler } t
      h'.exchanges.map (·.content) = kept.map (·.content) ∧ h'.converter = h.converter ∧
        h'.world = t' ∧ requests h'.events = requests h.events) ∧
    ((∀ e ∈ h.exchanges, e.response.isMisuse = true →
        e.events = [] ∨ ∀ s, (r.answer .clock s).2 = s) →
      History.of r (kept.map (·.call)) { config, compiler } s = ⟨kept, h.converter, h.world⟩) ∧
    (∀ e ∈ h.exchanges, ∀ error, e.response = .started (.error error) → e.after = e.before ∧
      ∀ job, e.before.job = some job → e.after.state job.handle = .ok job.state ∧
        e.after.workDir job.handle = .ok job.workDir ∧
        e.after.report job.handle = .ok job.report) := by
  intro h kept
  have linked := History.of_linked r calls { config, compiler } s
  have first := numbered_initial config compiler
  have genuine : ∀ e ∈ h.exchanges, Genuine e := fun e there =>
    (Linked.keeps (fun _ => True) (fun _ _ _ _ _ _ _ => trivial) linked trivial).2 e there |>.2
  refine ⟨?_, ?_, ?_, ?_, ?_, ?_⟩
  · intro few
    have bound := linked.length_handles
    rw [calls_of] at bound
    exact (linked.numbered first).nodup (by simpa using Nat.lt_of_le_of_lt bound few)
  · intro before e after split handle
    have whole := linked
    rw [show (History.of r calls { config, compiler } s).exchanges = before ++ e :: after
      from split] at whole
    obtain ⟨between, world, earlier, same, -⟩ := linked_append.mp whole
    have current := (earlier.numbered first).current
    rw [List.nil_append] at current
    rw [same, ← current]
    simp [find?, Option.filter_eq_some_iff]
  · intro e there
    exact misuse_of_course (genuine e there)
  · intro τ r' t t' answers h'
    obtain ⟨contents, converter, world⟩ := linked.leads_sensible.of_answers answers
    have silent : ∀ e ∈ h.exchanges, e.response.isMisuse = true → requests e.events = [] :=
      fun e there misuse => ((misuse_of_course (genuine e there)).2 misuse).2.requests_eq_nil
    have events : h'.events = kept.flatMap (·.events) := by
      have same := congrArg (List.flatMap fun content => content.2.2.2.1) contents
      simp only [List.flatMap_map, Exchange.content] at same
      exact same
    refine ⟨contents, converter, world, ?_⟩
    rw [events]
    exact requests_sensible silent
  · intro still
    exact of_eq_of_linked (linked.sensible still)
  · intro e there error refused
    have course := genuine e there
    rw [Genuine, refused] at course
    have same := unchanged_of_refused course
    refine ⟨same, fun job current => ?_⟩
    have found : e.before.find? job.handle = some job := find?_eq_some.mpr ⟨current, rfl⟩
    rw [same]
    simp [state, workDir, report, inspect, found]

end Converter

end SlideConverter

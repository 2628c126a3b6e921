import SlideConverter.Machine.Basic
import SlideConverter.Proofs.Tool.Fate

/-!
# Looking after a child

The owner of a child looks at it and kills it, as often as he likes and in any order. What
he is told is true, a child that has been killed is collected, and nothing is asked about
a child once its exit has been seen. A look never waits. A kill does, behind its signal,
and it does so whether the signal has been delivered or refused: so it blocks on a child
that nobody has told to end exactly where the signal is refused and the child goes on.
-/

namespace SlideConverter

namespace Child

/-! ## Looks and kills -/

/-- All that a look can be. -/
inductive Look (child : Child) :
    List ChildEvent → Except ErrorChain (Option ExitStatus) → Child → Prop
  | known {status : ExitStatus} (reaped : child.reaped = some status) :
    Look child [] (.ok (some status)) child
  | seen (status : ExitStatus) (unknown : child.reaped = none) :
    Look child [.asked .tryWait (.ok (some status))] (.ok (some status))
      { child with reaped := some status }
  | unseen (answer : Except SystemError (Option ExitStatus)) (unknown : child.reaped = none)
    (unseen : ChildCall.exit? .tryWait answer = none) :
    Look child [.asked .tryWait answer] (context ("try_wait " ++ child.program) answer) child

/-- What is noted of a look before the child is killed. -/
def lookRemarks (child : Child) : Except SystemError (Option ExitStatus) → List ChildEvent
  | .ok _ => []
  | .error cause => [.noted (.cannotTell ⟨["try_wait " ++ child.program, cause.message]⟩)]

def signalRemarks (child : Child) : Except SystemError Unit → List ChildEvent
  | .ok _ => []
  | .error cause => [.noted (.cannotSignal child.program cause)]

/-- The look and the signal of a kill that goes on to wait. -/
def approach (child : Child) (look : Except SystemError (Option ExitStatus))
    (signal : Except SystemError Unit) : List ChildEvent :=
  .asked .tryWait look :: (child.lookRemarks look ++
    .asked .signal signal :: child.signalRemarks signal)

/-- All that a kill can be. -/
inductive Kill (child : Child) : List ChildEvent → Reply Unit → Child → Prop
  | known {status : ExitStatus} (reaped : child.reaped = some status) : Kill child [] (.ok ()) child
  | seen (status : ExitStatus) (unknown : child.reaped = none) :
    Kill child [.asked .tryWait (.ok (some status))] (.ok ()) { child with reaped := some status }
  | ended (look : Except SystemError (Option ExitStatus)) (signal : Except SystemError Unit)
    (status : ExitStatus) (unknown : child.reaped = none)
    (unseen : ChildCall.exit? .tryWait look = none) :
    Kill child (child.approach look signal ++ [.asked .wait (.ok status)]) (.ok ())
      { child with reaped := some status }
  | lost (look : Except SystemError (Option ExitStatus)) (signal : Except SystemError Unit)
    (cause : SystemError) (unknown : child.reaped = none)
    (unseen : ChildCall.exit? .tryWait look = none) :
    Kill child (child.approach look signal ++ [.asked .wait (.error cause)])
      (.error ⟨["wait after kill: " ++ child.program, cause.message]⟩) child

variable {child child' : Child} {events past : List ChildEvent}

theorem tryWait_course {value : Except ErrorChain (Option ExitStatus) × Child}
    (course : child.tryWait.Course events value) : Look child events value.1 value.2 := by
  obtain ⟨program, reaped⟩ := child
  cases reaped with
  | some status =>
    obtain ⟨rfl, rfl⟩ := course
    exact .known rfl
  | none =>
    obtain ⟨answer, rest, rfl, rfl, rfl⟩ := course
    match answer with
    | .ok none => exact .unseen (.ok none) rfl rfl
    | .ok (some status) => exact .seen status rfl
    | .error cause => exact .unseen (.error cause) rfl rfl

/-- How a kill goes on behind a look that has seen no exit. -/
theorem pursuit_course {program : String} {look : Except SystemError (Option ExitStatus)}
    {value : Except ErrorChain Unit × Child}
    (course : (do
      match ← signal ⟨program, none⟩ with
      | .error cause => .remark (.cannotSignal program cause)
      | .ok _ => pure ()
      wait ⟨program, none⟩ : ChildAct (Except ErrorChain Unit × Child)).Course events value)
    (unseen : ChildCall.exit? .tryWait look = none) :
    Kill ⟨program, none⟩ (.asked .tryWait look :: (lookRemarks ⟨program, none⟩ look ++ events))
      value.1 value.2 := by
  obtain ⟨signal, rest, rfl, later⟩ := course
  have split : ∀ last : ChildEvent, .asked .tryWait look :: (lookRemarks ⟨program, none⟩ look ++
      .asked .signal signal :: (signalRemarks ⟨program, none⟩ signal ++ [last])) =
        approach ⟨program, none⟩ look signal ++ [last] := by simp [approach]
  cases signal with
  | ok delivered =>
    obtain ⟨answer, rest, rfl, rfl, rfl⟩ := later
    cases answer with
    | ok status => exact split _ ▸ .ended look (.ok delivered) status rfl unseen
    | error cause => exact split _ ▸ .lost look (.ok delivered) cause rfl unseen
  | error refusal =>
    obtain ⟨rest, rfl, answer, rest, rfl, rfl, rfl⟩ := later
    cases answer with
    | ok status => exact split _ ▸ .ended look (.error refusal) status rfl unseen
    | error cause => exact split _ ▸ .lost look (.error refusal) cause rfl unseen

theorem kill_course {value : Except ErrorChain Unit × Child}
    (course : child.kill.Course events value) : Kill child events value.1 value.2 := by
  obtain ⟨program, reaped⟩ := child
  cases reaped with
  | some status =>
    obtain ⟨rfl, rfl⟩ := course
    exact .known rfl
  | none =>
    obtain ⟨look, rest, rfl, later⟩ := course
    match look with
    | .ok (some status) =>
      obtain ⟨rfl, rfl⟩ := later
      exact .seen status rfl
    | .ok none => exact pursuit_course later rfl
    | .error cause =>
      obtain ⟨rest, rfl, later⟩ := later
      exact pursuit_course later rfl

@[simp] theorem exitsSeen_approach (child : Child) (look : Except SystemError (Option ExitStatus))
    (signal : Except SystemError Unit) :
    exitsSeen (child.approach look signal) = (ChildCall.exit? .tryWait look).toList := by
  cases look <;> cases signal <;> simp [approach, lookRemarks, signalRemarks]

theorem Look.sees {answer : Except ErrorChain (Option ExitStatus)} (unknown : child.reaped = none)
    (look : Look child events answer child') : Sees events child'.reaped := by
  cases look with
  | known reaped => cases unknown.symm.trans reaped
  | seen status => exact .last exitsSeen_nil rfl
  | unseen answer _ unseen =>
    rw [unknown]
    exact .nothing (by simp [unseen])

theorem Kill.sees {answer : Reply Unit} (unknown : child.reaped = none)
    (kill : Kill child events answer child') : Sees events child'.reaped := by
  cases kill with
  | known reaped => cases unknown.symm.trans reaped
  | seen status => exact .last exitsSeen_nil rfl
  | ended look signal status _ unseen => exact .last (by simp [unseen]) rfl
  | lost look signal cause _ unseen =>
    rw [unknown]
    exact .nothing (by rw [exitsSeen_append, exitsSeen_approach, unseen]; rfl)

theorem Look.reaped_of_told {answer : Except ErrorChain (Option ExitStatus)} {status : ExitStatus}
    (look : Look child events answer child') (told : answer = .ok (some status)) :
    child'.reaped = some status := by
  cases look with
  | known reaped =>
    cases told
    exact reaped
  | seen =>
    cases told
    rfl
  | unseen answer unknown unseen =>
    cases answer with
    | ok seen =>
      cases told
      cases unseen
    | error cause => cases told

theorem Look.events_of_unended {answer : Except ErrorChain (Option ExitStatus)}
    (look : Look child events answer child') (told : answer = .ok none) :
    events = [.asked .tryWait (.ok none)] := by
  cases look with
  | known | seen => cases told
  | unseen answer =>
    cases answer with
    | ok seen =>
      cases told
      rfl
    | error cause => cases told

theorem Kill.reaped_of_told {answer : Reply Unit} (kill : Kill child events answer child')
    (told : answer = .ok ()) : ∃ status, child'.reaped = some status := by
  cases kill with
  | known reaped => exact ⟨_, reaped⟩
  | seen status | ended look signal status => exact ⟨status, rfl⟩
  | lost => cases told

/-! ## Uses of a child -/

inductive Use where
  | look
  | kill

inductive Result where
  | looked (exit : Reply (Option ToolExit))
  | killed (answer : Reply Unit)

/-- What is told of a child that is known to have ended. -/
def Use.known (status : ExitStatus) : Use → Result
  | .look => .looked (.ok (some status.toolExit))
  | .kill => .killed (.ok ())

def respond (child : Child) : Use → ChildAct (Result × Child)
  | .look => do
    let (answer, child) ← child.tryWait
    return (.looked (answer.map (·.map ExitStatus.toolExit)), child)
  | .kill => do
    let (answer, child) ← child.kill
    return (.killed answer, child)

/-- All that a use can be. -/
inductive Conduct (child : Child) : Use → List ChildEvent → Result → Child → Prop
  | looked {events : List ChildEvent} {answer : Except ErrorChain (Option ExitStatus)}
    {child' : Child} (look : Look child events answer child') :
    Conduct child .look events (.looked (answer.map (·.map ExitStatus.toolExit))) child'
  | killed {events : List ChildEvent} {answer : Reply Unit} {child' : Child}
    (kill : Kill child events answer child') : Conduct child .kill events (.killed answer) child'

theorem respond_course {use : Use} {value : Result × Child}
    (course : (child.respond use).Course events value) :
    Conduct child use events value.1 value.2 := by
  cases use with
  | look =>
    obtain ⟨_, looked, rfl⟩ := Dialogue.course_reshape course fun _ => rfl
    exact .looked (tryWait_course looked)
  | kill =>
    obtain ⟨_, killed, rfl⟩ := Dialogue.course_reshape course fun _ => rfl
    exact .killed (kill_course killed)

variable {use : Use} {result : Result}

theorem Conduct.sees (unknown : child.reaped = none)
    (conduct : Conduct child use events result child') : Sees events child'.reaped := by
  cases conduct with
  | looked look => exact look.sees unknown
  | killed kill => exact kill.sees unknown

theorem Conduct.events_of_atWork (conduct : Conduct child use events result child')
    (told : result = .looked (.ok none)) : events = [.asked .tryWait (.ok none)] := by
  cases conduct with
  | @looked _ answer _ look =>
    match answer with
    | .ok none => exact look.events_of_unended rfl
    | .ok (some _) | .error _ => cases told
  | killed => cases told

theorem Conduct.reaped_of_exited {exit : ToolExit}
    (conduct : Conduct child use events result child') (told : result = .looked (.ok (some exit))) :
    ∃ status, exit = status.toolExit ∧ child'.reaped = some status := by
  cases conduct with
  | @looked _ answer _ look =>
    match answer with
    | .ok (some status) =>
      cases told
      exact ⟨status, rfl, look.reaped_of_told rfl⟩
    | .ok none | .error _ => cases told
  | killed => cases told

theorem Conduct.reaped_of_killed (conduct : Conduct child use events result child')
    (told : result = .killed (.ok ())) : ∃ status, child'.reaped = some status := by
  cases conduct with
  | looked => cases told
  | killed kill => exact kill.reaped_of_told (Result.killed.inj told)

variable {σ : Type} {r : Respondent ChildCall ChildCall.Answer σ} {fate : σ → Fate} {s s' : σ}

theorem respond_known {status : ExitStatus} (reaped : child.reaped = some status) (use : Use) :
    (child.respond use).perform r s = ⟨(use.known status, child), s, []⟩ := by
  obtain ⟨program, _⟩ := child
  cases reaped
  cases use <;> rfl

/-- A child after some uses of it, and all that has happened in them. -/
structure Tended (σ : Type) where
  child : Child
  world : σ
  events : List ChildEvent

def tend (r : Respondent ChildCall ChildCall.Answer σ) : List Use → Child → σ → Tended σ
  | [], child, s => ⟨child, s, []⟩
  | use :: rest, child, s =>
    let p := (child.respond use).perform r s
    let later := tend r rest p.value.2 p.state
    { later with events := p.events ++ later.events }

/-- The child remembers its exit exactly if its system has handed that over, and what has
happened before ends with the sight of it. -/
structure Tracks (child : Child) (fate : Fate) (past : List ChildEvent) : Prop where
  agrees : fate.collected? = child.reaped
  sees : Sees past child.reaped

theorem Tracks.fate_eq {status : ExitStatus} (tracks : Tracks child (fate s) past)
    (reaped : child.reaped = some status) : fate s = .collected status :=
  Fate.eq_collected (tracks.agrees.trans reaped)

theorem Tracks.respond (system : ChildSystem r fate) (tracks : Tracks child (fate s) past)
    (use : Use) :
    let p := (child.respond use).perform r s
    Tracks p.value.2 (fate p.state) (past ++ p.events) := by
  intro p
  cases reaped : child.reaped with
  | some status =>
    have still : p = ⟨(use.known status, child), s, []⟩ := respond_known reaped use
    rw [still]
    exact ⟨tracks.agrees, (List.append_nil past).symm ▸ tracks.sees⟩
  | none =>
    have sees : Sees p.events p.value.2.reaped :=
      (respond_course ((child.respond use).perform_course r s)).sees reaped
    have unseen : exitsSeen past = [] := by rw [tracks.sees.exitsSeen_eq, reaped]; rfl
    refine ⟨?_, sees.behind unseen⟩
    exact system.collected?_of_sees (tracks.agrees.trans reaped)
      (r.answers_perform (child.respond use) s) sees

theorem Tracks.tend (system : ChildSystem r fate) (tracks : Tracks child (fate s) past)
    (uses : List Use) :
    let t := tend r uses child s
    Tracks t.child (fate t.world) (past ++ t.events) := by
  induction uses generalizing child s past with
  | nil => simpa only [Child.tend, List.append_nil] using tracks
  | cons use rest ih =>
    have later := ih (tracks.respond system use)
    simpa only [Child.tend, List.append_assoc] using later

/-- Nobody has collected a child that a call meets. -/
theorem Tracks.uncollected (system : ChildSystem r fate) (tracks : Tracks child (fate s) past)
    {call : ChildCall} {t : σ} (answers : r.Answers s events s')
    (sees : Sees (past ++ events) child'.reaped) (there : (call, t) ∈ r.met s events) :
    (fate t).collected? = none := by
  obtain ⟨before, answer, after, rfl, reached⟩ := Respondent.split_of_mem_met there answers
  have unseen := sees.unseen_before (List.append_assoc past before _).symm
  rw [exitsSeen_append, List.append_eq_nil_iff, tracks.sees.exitsSeen_eq, Option.toList_eq_nil_iff]
    at unseen
  exact system.collected?_of_unseen (tracks.agrees.trans unseen.1) reached unseen.2

/-! ## The calls of a use -/

theorem met_approach (child : Child) (look : Except SystemError (Option ExitStatus))
    (signal : Except SystemError Unit) (wait : Except SystemError ExitStatus) (s : σ) :
    let t := (r.answer .tryWait s).2
    let u := (r.answer .signal t).2
    r.met s (child.approach look signal ++ [.asked .wait wait]) =
      [(.tryWait, s), (.signal, t), (.wait, u)] := by
  cases look <;> cases signal <;> rfl

/-- A use that waits is a kill that has looked and signalled first. -/
theorem Conduct.met (conduct : Conduct child use events result child') (s : σ) :
    let t := (r.answer .tryWait s).2
    let u := (r.answer .signal t).2
    (∀ call t, (call, t) ∈ r.met s events → call = .tryWait) ∨
      use = .kill ∧ r.met s events = [(.tryWait, s), (.signal, t), (.wait, u)] := by
  cases conduct with
  | looked look => cases look <;> exact .inl (by simp [Respondent.met])
  | killed kill =>
    cases kill with
    | known | seen => exact .inl (by simp [Respondent.met])
    | ended look signal => exact .inr ⟨rfl, met_approach child look signal _ s⟩
    | lost look signal => exact .inr ⟨rfl, met_approach child look signal _ s⟩

/-- The last answer in a use that waits is the one to its wait. -/
theorem answer_of_approach {look : Except SystemError (Option ExitStatus)}
    {signal : Except SystemError Unit} {wait : Except SystemError ExitStatus}
    (answers : r.Answers s (child.approach look signal ++ [.asked .wait wait]) s') :
    (r.answer .wait (r.answer .signal (r.answer .tryWait s).2).2).1 = wait := by
  cases look <;> cases signal <;> exact answers.2.2.1

theorem Kill.failed_iff {answer : Reply Unit} (kill : Kill child events answer child')
    (answers : r.Answers s events s') : (∃ chain, answer = .error chain) ↔
      ∃ t cause, (.wait, t) ∈ r.met s events ∧ (r.answer .wait t).1 = .error cause := by
  cases kill with
  | known | seen => simp [Respondent.met]
  | ended look signal status => simp [met_approach, answer_of_approach answers]
  | lost look signal cause => simp [met_approach, answer_of_approach answers]

theorem Conduct.brief {t : σ} (conduct : Conduct child use events result child')
    (look : use = .look) :
    (.wait, t) ∉ r.met s events := by
  intro there
  rcases conduct.met s with brief | ⟨kills, -⟩
  · cases brief _ t there
  · cases look.symm.trans kills

theorem Conduct.failed_iff (conduct : Conduct child use events result child')
    (answers : r.Answers s events s') :
    (∃ chain, result = .killed (.error chain)) ↔
      ∃ t cause, (.wait, t) ∈ r.met s events ∧ (r.answer .wait t).1 = .error cause := by
  cases conduct with
  | looked look => cases look <;> simp [Respondent.met]
  | killed kill => simpa only [Result.killed.injEq] using kill.failed_iff answers

/-! ## What an owner can rely on -/

/-- A wait begins while the child is running and no signal has reached it. -/
def Strands (r : Respondent ChildCall ChildCall.Answer σ) (fate : σ → Fate) (s : σ)
    (events : List ChildEvent) : Prop :=
  ∃ t, (.wait, t) ∈ r.met s events ∧ fate t = .running false

/-- A signal is refused, and the child goes on without having been reached by any. -/
def Defies (r : Respondent ChildCall ChildCall.Answer σ) (fate : σ → Fate) (s : σ)
    (events : List ChildEvent) : Prop :=
  ∃ t cause, (.signal, t) ∈ r.met s events ∧ (r.answer .signal t).1 = .error cause ∧
    fate (r.answer .signal t).2 = .running false

/-- What can be relied on in a use that begins in state `s`, after what has happened in the
`past`. -/
structure Reliable (r : Respondent ChildCall ChildCall.Answer σ) (fate : σ → Fate)
    (past : List ChildEvent) (s : σ) (use : Use)
    (p : Performance ChildCall ChildCall.Answer ChildWarning σ (Result × Child)) : Prop where
  /-- Whatever is done with a child that has been seen to have ended, its exit is what is told,
  and the system is left alone. -/
  known : ∀ status ∈ exitsSeen past, p.events = [] ∧ p.value.1 = use.known status
  /-- No call is made behind the sight of an exit, in this use or across uses. -/
  final : ∀ before call answer after, past ++ p.events = before ++ .asked call answer :: after →
    exitsSeen before = []
  /-- No call, and so no signal, meets a child whose number may belong to another program. -/
  uncollected : ∀ call t, (call, t) ∈ r.met s p.events → (fate t).collected? = none
  /-- A look does not wait. -/
  brief : use = .look → ∀ t, (.wait, t) ∉ r.met s p.events
  atWork : p.value.1 = .looked (.ok none) → ∃ signalled, fate s = .running signalled
  exited : ∀ exit, p.value.1 = .looked (.ok (some exit)) →
    ∃ status, exit = status.toolExit ∧ fate p.state = .collected status
  killed : p.value.1 = .killed (.ok ()) → ∃ status, fate p.state = .collected status
  /-- Only a refused wait makes a kill fail. -/
  failed : (∃ chain, p.value.1 = .killed (.error chain)) ↔
    ∃ t cause, (.wait, t) ∈ r.met s p.events ∧ (r.answer .wait t).1 = .error cause

theorem Tracks.reliable (system : ChildSystem r fate) (tracks : Tracks child (fate s) past)
    (use : Use) : Reliable r fate past s use ((child.respond use).perform r s) := by
  have answers := r.answers_perform (child.respond use) s
  have conduct := respond_course ((child.respond use).perform_course r s)
  have later := tracks.respond system use
  constructor
  case known =>
    intro status seen
    rw [tracks.sees.exitsSeen_eq, Option.mem_toList] at seen
    rw [respond_known seen use]
    exact ⟨rfl, rfl⟩
  case final => exact fun _ _ _ _ split => later.sees.unseen_before split
  case uncollected => exact fun _ _ there => tracks.uncollected system answers later.sees there
  case brief => exact fun look _ there => conduct.brief look there
  case atWork =>
    intro told
    rw [conduct.events_of_atWork told] at answers
    exact system.running_of_unended answers.1
  case exited =>
    intro exit told
    obtain ⟨status, same, reaped⟩ := conduct.reaped_of_exited told
    exact ⟨status, same, later.fate_eq reaped⟩
  case killed =>
    intro told
    obtain ⟨status, reaped⟩ := conduct.reaped_of_killed told
    exact ⟨status, later.fate_eq reaped⟩
  case failed => exact conduct.failed_iff answers

theorem strands_iff_defies (system : ChildSystem r fate)
    (conduct : Conduct child use events result child') :
    Strands r fate s events ↔ Defies r fate s events := by
  rcases conduct.met s with brief | ⟨-, calls⟩
  · constructor
    · rintro ⟨t, there, -⟩
      cases brief _ t there
    · rintro ⟨t, _, there, -⟩
      cases brief _ t there
  · simp only [Strands, Defies, calls]
    constructor
    · rintro ⟨t, there, unsignalled⟩
      obtain rfl : t = (r.answer .signal (r.answer .tryWait s).2).2 := by simpa using there
      cases signal : (r.answer .signal (r.answer .tryWait s).2).1 with
      | ok delivered => exact absurd unsignalled (system.not_unsignalled signal)
      | error cause => exact ⟨_, cause, by simp, signal, unsignalled⟩
    · rintro ⟨t, cause, there, refused, unsignalled⟩
      obtain rfl : t = (r.answer .tryWait s).2 := by simpa using there
      exact ⟨_, by simp, unsignalled⟩

/-- A kill leaves its owner waiting for a child that nobody has told to end exactly where the
system refuses its signal and lets the child go on; everything else can be relied on. If
signals are refused only for children that have ended, no use waits for a running child that
has not been signalled. -/
theorem kill_waits_iff_signal_refused (system : ChildSystem r fate) (program : String)
    (uses : List Use) (use : Use) (fresh : (fate s).collected? = none) :
    let t := tend r uses { program } s
    let p := (t.child.respond use).perform r t.world
    Reliable r fate t.events t.world use p ∧
      (Strands r fate t.world p.events ↔ Defies r fate t.world p.events) ∧
      ((∀ u cause, (r.answer .signal u).1 = .error cause →
          ∀ signalled, fate u ≠ .running signalled) →
        ¬ Strands r fate t.world p.events) := by
  intro t p
  have launched : Tracks { program } (fate s) [] := ⟨fresh, .nothing exitsSeen_nil⟩
  have tracks : Tracks t.child (fate t.world) t.events := launched.tend system uses
  have strands := strands_iff_defies (s := t.world) system
    (respond_course ((t.child.respond use).perform_course r t.world))
  refine ⟨tracks.reliable system use, strands, ?_⟩
  rintro ended stranded
  obtain ⟨u, cause, -, refused, runs⟩ := strands.mp stranded
  exact system.not_running .signal (ended u cause refused) false runs

/-- A child whose owner has no system call for signals. It ends while it is waited for, and nothing
is told of it after that. -/
def stubborn : Respondent ChildCall ChildCall.Answer Fate where
  answer
  | .tryWait, .running signalled => (.ok none, .running signalled)
  | .tryWait, .ended status => (.ok (some status), .collected status)
  | .tryWait, .collected status => (.error .notImplemented, .collected status)
  | .signal, fate => (.error .notImplemented, fate)
  | .wait, .running _ => (.ok .success, .collected .success)
  | .wait, .ended status => (.ok status, .collected status)
  | .wait, .collected status => (.error .notImplemented, .collected status)

theorem childSystem_stubborn : ChildSystem stubborn id where
  serves call fate := by
    refine ⟨(stubborn.answer call fate).2, ?_, .stays _⟩
    cases call <;> cases fate <;> constructor

theorem kill_waits_after_refused_signal :
    let p := (respond { program := "office" } .kill).perform stubborn (.running false)
    ChildSystem stubborn id ∧ Fate.collected? (.running false) = none ∧
      Reliable stubborn id [] (.running false) .kill p ∧
      Strands stubborn id (.running false) p.events ∧
      p.value.1 = .killed (.ok ()) ∧ p.state = .collected .success := by
  have ⟨reliable, strands, _⟩ := kill_waits_iff_signal_refused (s := .running false)
    childSystem_stubborn "office" [] .kill rfl
  refine ⟨childSystem_stubborn, rfl, reliable, strands.mpr ?_, rfl, rfl⟩
  exact ⟨.running false, .notImplemented, .tail _ (.head _), rfl, rfl⟩

/-- On a machine the wait can be seen by the clock. -/
example :
    let work : Work :=
      { child := { program := "office" }, since := 0
        rest := .ask (.sleep ⟨2000000000⟩) fun _ => .done .success
        place := [] }
    let m : Machine := { signalRefusal := some .notImplemented, work := [work] }
    ((m.kill { serial := 0, pid := 4243 }).2.now, m.now) = (2000000000, 0) := by
  rfl

end Child

end SlideConverter

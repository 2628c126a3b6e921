import SlideConverter.Proofs.Dialogue
import SlideConverter.Tool.Child

/-!
# What becomes of a child

The system knows how a child stands: it is running, it has ended, or its exit status has
been handed over. A child may end by itself between any two calls, and every call may be
refused, whatever has become of the child. A wait that is not refused lasts as long as
the child runs. Which child ends when, and what is refused, is left open: a system is any
respondent whose answers are possible for a child that stands as it says.
-/

namespace SlideConverter

abbrev ChildEvent := Event ChildCall ChildCall.Answer ChildWarning

inductive Fate where
  /-- A signal to end has been delivered, or none has. -/
  | running (signalled : Bool)
  | ended (status : ExitStatus)
  /-- Its exit status has been handed over, and its number may belong to another program. -/
  | collected (status : ExitStatus)
deriving DecidableEq

namespace Fate

@[simp] def collected? : Fate → Option ExitStatus
  | .collected status => some status
  | _ => none

theorem eq_collected {fate : Fate} {status : ExitStatus}
    (collected : fate.collected? = some status) : fate = .collected status := by
  cases fate <;> cases collected
  rfl

/-- How a call may be answered, and how the child stands right after it. -/
inductive Serves : Fate → (call : ChildCall) → call.Answer → Fate → Prop
  | lookRefused (fate : Fate) (cause : SystemError) : Serves fate .tryWait (.error cause) fate
  | signalRefused (fate : Fate) (cause : SystemError) : Serves fate .signal (.error cause) fate
  | waitRefused (fate : Fate) (cause : SystemError) : Serves fate .wait (.error cause) fate
  | atWork (signalled : Bool) :
    Serves (.running signalled) .tryWait (.ok none) (.running signalled)
  | seen (status : ExitStatus) :
    Serves (.ended status) .tryWait (.ok (some status)) (.collected status)
  | signalled (before : Bool) : Serves (.running before) .signal (.ok ()) (.running true)
  | tooLate (status : ExitStatus) : Serves (.ended status) .signal (.ok ()) (.ended status)
  /-- The signal goes to whoever has the number now. -/
  | astray (status : ExitStatus) : Serves (.collected status) .signal (.ok ()) (.collected status)
  /-- The wait blocks until the child has ended. -/
  | outlasted (signalled : Bool) (status : ExitStatus) :
    Serves (.running signalled) .wait (.ok status) (.collected status)
  | fetched (status : ExitStatus) :
    Serves (.ended status) .wait (.ok status) (.collected status)

/-- What may have become of a child by the next call. -/
inductive Goes : Fate → Fate → Prop
  | stays (fate : Fate) : Goes fate fate
  | ends (signalled : Bool) (status : ExitStatus) : Goes (.running signalled) (.ended status)

theorem Goes.collected?_eq {fate later : Fate} (goes : Goes fate later) :
    later.collected? = fate.collected? := by
  cases goes <;> rfl

end Fate

/-! ## Exits that have been seen -/

/-- How the child has ended, if the answer says so. -/
def ChildCall.exit? : (call : ChildCall) → call.Answer → Option ExitStatus
  | .tryWait, .ok status => status
  | .wait, .ok status => some status
  | .tryWait, .error _ | .signal, _ | .wait, .error _ => none

@[simp] theorem ChildCall.exit?_signal (answer : Except SystemError Unit) :
    ChildCall.exit? .signal answer = none := by
  cases answer <;> rfl

def exitSeen? : ChildEvent → Option ExitStatus
  | .asked call answer => call.exit? answer
  | .noted _ => none

@[simp] theorem exitSeen?_asked (call : ChildCall) (answer : call.Answer) :
    exitSeen? (.asked call answer) = call.exit? answer := rfl

@[simp] theorem exitSeen?_noted (entry : ChildWarning) : exitSeen? (.noted entry) = none := rfl

def exitsSeen (events : List ChildEvent) : List ExitStatus := events.filterMap exitSeen?

@[simp] theorem exitsSeen_nil : exitsSeen [] = [] := rfl

@[simp] theorem exitsSeen_append (first second : List ChildEvent) :
    exitsSeen (first ++ second) = exitsSeen first ++ exitsSeen second :=
  List.filterMap_append

@[simp] theorem exitsSeen_cons (event : ChildEvent) (events : List ChildEvent) :
    exitsSeen (event :: events) = (exitSeen? event).toList ++ exitsSeen events := by
  cases seen : exitSeen? event with
  | none => exact List.filterMap_cons_none seen
  | some status => exact List.filterMap_cons_some seen

/-- An exit is seen as the last thing that happens, or none is seen. -/
inductive Sees : List ChildEvent → Option ExitStatus → Prop
  | nothing {events : List ChildEvent} (unseen : exitsSeen events = []) : Sees events none
  | last {events : List ChildEvent} {event : ChildEvent} {status : ExitStatus}
    (unseen : exitsSeen events = []) (seen : exitSeen? event = some status) :
    Sees (events ++ [event]) (some status)

namespace Sees

variable {events past before after : List ChildEvent} {event : ChildEvent}
  {exit : Option ExitStatus}

theorem exitsSeen_eq (sees : Sees events exit) : exitsSeen events = exit.toList := by
  cases sees with
  | nothing unseen => exact unseen
  | last unseen seen => simp [unseen, seen]

theorem behind (sees : Sees events exit) (unseen : exitsSeen past = []) :
    Sees (past ++ events) exit := by
  cases sees with
  | nothing none => exact .nothing (by simp [unseen, none])
  | last none seen =>
    rw [← List.append_assoc]
    exact .last (by simp [unseen, none]) seen

/-- Nothing happens behind the sight of an exit. -/
theorem unseen_before (sees : Sees events exit) (split : events = before ++ event :: after) :
    exitsSeen before = [] := by
  cases sees with
  | nothing unseen =>
    rw [split, exitsSeen_append] at unseen
    exact (List.append_eq_nil_iff.mp unseen).1
  | @last earlier final status unseen seen =>
    have shorter : before.length ≤ earlier.length := by
      have lengths := congrArg List.length split
      simp only [List.length_append, List.length_cons, List.length_nil] at lengths
      omega
    obtain ⟨rest, rfl⟩ := List.prefix_of_prefix_length_le
      (split ▸ List.prefix_append before _) (List.prefix_append earlier [final]) shorter
    rw [exitsSeen_append] at unseen
    exact (List.append_eq_nil_iff.mp unseen).1

end Sees

/-! ## Calls and the states in which they are met -/

namespace Respondent

variable {Q : Type} {A : Q → Type} {N σ : Type} {r : Respondent Q A σ} {s s' t : σ}
  {events : List (Event Q A N)} {q : Q}

/-- The questions that are asked from state `s` on, each with the state that it is met in. -/
def met (r : Respondent Q A σ) : σ → List (Event Q A N) → List (Q × σ)
  | _, [] => []
  | s, .asked q _ :: rest => (q, s) :: r.met (r.answer q s).2 rest
  | s, .noted _ :: rest => r.met s rest

theorem split_of_mem_met (there : (q, t) ∈ r.met s events) (answers : r.Answers s events s') :
    ∃ before answer after, events = before ++ .asked q answer :: after ∧ r.Answers s before t := by
  induction events generalizing s with
  | nil => cases there
  | cons event rest ih =>
    cases event with
    | asked q' answer' =>
      obtain ⟨given, later⟩ := answers
      rcases List.mem_cons.mp there with here | there
      · cases here
        exact ⟨[], answer', rest, rfl, rfl⟩
      · obtain ⟨before, answer, after, rfl, reached⟩ := ih there later
        exact ⟨_ :: before, answer, after, rfl, given, reached⟩
    | noted n =>
      obtain ⟨before, answer, after, rfl, reached⟩ := ih there answers
      exact ⟨_ :: before, answer, after, rfl, reached⟩

end Respondent

/-! ## Systems -/

variable {σ : Type} {r : Respondent ChildCall ChildCall.Answer σ} {fate : σ → Fate} {s s' : σ}
  {events : List ChildEvent}

/-- `fate` tells how the child stands when the next call is made. -/
structure ChildSystem (r : Respondent ChildCall ChildCall.Answer σ) (fate : σ → Fate) : Prop where
  serves : ∀ call s, ∃ left, (fate s).Serves call (r.answer call s).1 left ∧
    left.Goes (fate (r.answer call s).2)

namespace ChildSystem

/-- An exit status is collected by the call that it is the answer to. -/
theorem collected?_answer (system : ChildSystem r fate) (call : ChildCall)
    (uncollected : (fate s).collected? = none) :
    (fate (r.answer call s).2).collected? = call.exit? (r.answer call s).1 := by
  obtain ⟨left, serves, goes⟩ := system.serves call s
  rw [goes.collected?_eq]
  generalize fate s = stood, (r.answer call s).1 = answer at *
  cases serves with
  | lookRefused | signalRefused | waitRefused | astray => exact uncollected
  | atWork | seen | signalled | tooLate | outlasted | fetched => rfl

theorem collected?_of_unseen (system : ChildSystem r fate)
    (uncollected : (fate s).collected? = none) (answers : r.Answers s events s')
    (unseen : exitsSeen events = []) :
    (fate s').collected? = none := by
  induction events generalizing s with
  | nil =>
    cases answers
    exact uncollected
  | cons event rest ih =>
    rw [exitsSeen_cons] at unseen
    obtain ⟨here, later⟩ := List.append_eq_nil_iff.mp unseen
    cases event with
    | asked call answer =>
      obtain ⟨rfl, onward⟩ := answers
      refine ih ?_ onward later
      rw [system.collected?_answer call uncollected]
      simpa using here
    | noted n => exact ih uncollected answers later

theorem collected?_of_sees {exit : Option ExitStatus} (system : ChildSystem r fate)
    (uncollected : (fate s).collected? = none) (answers : r.Answers s events s')
    (sees : Sees events exit) : (fate s').collected? = exit := by
  cases sees with
  | nothing unseen => exact system.collected?_of_unseen uncollected answers unseen
  | @last before event status unseen seen =>
    obtain ⟨between, reached, onward⟩ := Respondent.answers_append.mp answers
    have still := system.collected?_of_unseen uncollected reached unseen
    cases event with
    | asked call answer =>
      obtain ⟨rfl, rfl⟩ := onward
      rw [system.collected?_answer call still]
      exact seen
    | noted n => cases seen

/-- A look that is not refused and sees no exit is one at a running child. -/
theorem running_of_unended (system : ChildSystem r fate)
    (unended : (r.answer .tryWait s).1 = .ok none) : ∃ signalled, fate s = .running signalled := by
  obtain ⟨left, serves, -⟩ := system.serves .tryWait s
  rw [unended] at serves
  generalize fate s = stood at *
  cases serves
  exact ⟨_, rfl⟩

/-- A signal that is not refused reaches the child if it is running. -/
theorem not_unsignalled (system : ChildSystem r fate)
    (delivered : (r.answer .signal s).1 = .ok ()) :
    fate (r.answer .signal s).2 ≠ .running false := by
  intro unsignalled
  obtain ⟨left, serves, goes⟩ := system.serves .signal s
  rw [unsignalled] at goes
  rw [delivered] at serves
  cases goes
  generalize fate s = stood at serves
  cases serves

/-- A child that is no longer running stays so. -/
theorem not_running (system : ChildSystem r fate) (call : ChildCall)
    (ended : ∀ signalled, fate s ≠ .running signalled) (signalled : Bool) :
    fate (r.answer call s).2 ≠ .running signalled := by
  intro runs
  obtain ⟨left, serves, goes⟩ := system.serves call s
  rw [runs] at goes
  cases goes
  generalize fate s = stood, (r.answer call s).1 = answer at *
  cases serves <;> exact ended _ rfl

end ChildSystem

end SlideConverter

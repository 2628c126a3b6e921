import SlideConverter.Dialogue

/-!
# Courses of dialogues

A course of a dialogue is one way in which it can go: what happens in it and the value
that it ends with, whatever is answered. Performing a dialogue gives one of its courses,
so what holds for every course holds for every respondent. Conversely a course says all:
two courses in which the same happens end with the same value.
-/

namespace SlideConverter

namespace Dialogue

universe u

variable {Q : Type} {A : Q → Type} {N σ : Type} {α β : Type u}

/-- The dialogue can go as `events` say and end with `value`. -/
def Course : Dialogue Q A N α → List (Event Q A N) → α → Prop
  | .done a, events, value => events = [] ∧ value = a
  | .ask q next, events, value =>
    ∃ answer rest, events = .asked q answer :: rest ∧ (next answer).Course rest value
  | .note n next, events, value => ∃ rest, events = .noted n :: rest ∧ next.Course rest value

@[simp] theorem course_pure {a value : α} {events : List (Event Q A N)} :
    (pure a : Dialogue Q A N α).Course events value ↔ events = [] ∧ value = a :=
  Iff.rfl

theorem course_bind {d : Dialogue Q A N α} {k : α → Dialogue Q A N β}
    {events : List (Event Q A N)} {value : β} :
    (d >>= k).Course events value ↔ ∃ before between after, events = before ++ after ∧
      d.Course before between ∧ (k between).Course after value := by
  change (d.bind k).Course events value ↔ _
  induction d generalizing events with
  | done a =>
    constructor
    · intro h
      exact ⟨[], a, events, rfl, ⟨rfl, rfl⟩, h⟩
    · rintro ⟨_, _, _, rfl, ⟨rfl, rfl⟩, h⟩
      exact h
  | ask q next ih =>
    constructor
    · rintro ⟨answer, rest, rfl, h⟩
      obtain ⟨before, between, after, rfl, first, second⟩ := (ih answer).mp h
      exact ⟨_, between, after, rfl, ⟨answer, before, rfl, first⟩, second⟩
    · rintro ⟨_, between, after, rfl, ⟨answer, before, rfl, first⟩, second⟩
      have whole := (ih answer).mpr ⟨before, between, after, rfl, first, second⟩
      exact ⟨answer, before ++ after, rfl, whole⟩
  | note n next ih =>
    constructor
    · rintro ⟨rest, rfl, h⟩
      obtain ⟨before, between, after, rfl, first, second⟩ := ih.mp h
      exact ⟨_, between, after, rfl, ⟨before, rfl, first⟩, second⟩
    · rintro ⟨_, between, after, rfl, ⟨before, rfl, first⟩, second⟩
      exact ⟨before ++ after, rfl, ih.mpr ⟨before, between, after, rfl, first, second⟩⟩

/-- Two courses in which the same happens end with the same value. -/
theorem course_unique {d : Dialogue Q A N α} {events : List (Event Q A N)} {value value' : α}
    (course : d.Course events value) (course' : d.Course events value') : value = value' := by
  induction d generalizing events with
  | done a =>
    obtain ⟨-, rfl⟩ := course
    obtain ⟨-, rfl⟩ := course'
    rfl
  | ask q next ih =>
    obtain ⟨answer, rest, rfl, later⟩ := course
    obtain ⟨answer', rest', same, later'⟩ := course'
    cases same
    exact ih answer later later'
  | note n next ih =>
    obtain ⟨rest, rfl, later⟩ := course
    obtain ⟨rest', same, later'⟩ := course'
    cases same
    exact ih later later'

/-- A dialogue that only changes the form of what another one ends with. -/
theorem course_reshape {d : Dialogue Q A N α} {k : α → Dialogue Q A N β} {f : α → β}
    {events : List (Event Q A N)} {value : β} (course : (d >>= k).Course events value)
    (reshapes : ∀ a, k a = pure (f a)) : ∃ a, d.Course events a ∧ value = f a := by
  obtain ⟨before, a, after, rfl, first, second⟩ := course_bind.mp course
  rw [reshapes] at second
  obtain ⟨rfl, rfl⟩ := course_pure.mp second
  rw [List.append_nil]
  exact ⟨a, first, rfl⟩

/-- A dialogue behind which nothing happens any more. -/
theorem course_bind_of_pure {d : Dialogue Q A N α} {k : α → Dialogue Q A N β} {a : α} {b : β}
    {events : List (Event Q A N)} (course : d.Course events a) (ends : k a = pure b) :
    (d >>= k).Course events b := by
  refine course_bind.mpr ⟨events, a, [], (List.append_nil events).symm, course, ?_⟩
  rw [ends]
  exact ⟨rfl, rfl⟩

theorem perform_bind (r : Respondent Q A σ) (d : Dialogue Q A N α) (k : α → Dialogue Q A N β)
    (s : σ) : (d >>= k).perform r s =
      let first := d.perform r s
      let second := (k first.value).perform r first.state
      ⟨second.value, second.state, first.events ++ second.events⟩ := by
  change (d.bind k).perform r s = _
  induction d generalizing s with
  | done a => rfl
  | ask q next ih => simp only [bind, perform, ih, List.cons_append]
  | note n next ih => simp only [bind, perform, ih, List.cons_append]

/-- The course that a respondent brings about. -/
theorem perform_course (r : Respondent Q A σ) (d : Dialogue Q A N α) (s : σ) :
    d.Course (d.perform r s).events (d.perform r s).value := by
  induction d generalizing s with
  | done a => exact ⟨rfl, rfl⟩
  | ask q next ih => exact ⟨_, _, rfl, ih _ _⟩
  | note n next ih => exact ⟨_, rfl, ih _⟩

end Dialogue

/-! ## What a respondent makes of a course -/

namespace Respondent

variable {Q : Type} {A : Q → Type} {N σ : Type}

/-- From state `s` the respondent answers as `events` say, and `s'` is its state then. -/
def Answers (r : Respondent Q A σ) : σ → List (Event Q A N) → σ → Prop
  | s, [], s' => s' = s
  | s, .asked q answer :: rest, s' =>
    (r.answer q s).1 = answer ∧ r.Answers (r.answer q s).2 rest s'
  | s, .noted _ :: rest, s' => r.Answers s rest s'

theorem answers_append {r : Respondent Q A σ} {s s' : σ} {first second : List (Event Q A N)} :
    r.Answers s (first ++ second) s' ↔
      ∃ between, r.Answers s first between ∧ r.Answers between second s' := by
  induction first generalizing s with
  | nil => simp [Answers]
  | cons event rest ih =>
    cases event with
    | asked q answer => simp [Answers, ih, and_assoc]
    | noted n => simp [Answers, ih]

theorem answers_perform {α : Type} (r : Respondent Q A σ) (d : Dialogue Q A N α) (s : σ) :
    r.Answers s (d.perform r s).events (d.perform r s).state := by
  induction d generalizing s with
  | done a => exact rfl
  | ask q next ih => exact ⟨rfl, ih _ _⟩
  | note n next ih => exact ih _

/-- Every answer in a course is one that the respondent gives. -/
theorem answered {r : Respondent Q A σ} {s s' : σ} {events : List (Event Q A N)} {q : Q}
    {answer : A q} (answers : r.Answers s events s') (there : .asked q answer ∈ events) :
    ∃ between, (r.answer q between).1 = answer := by
  induction events generalizing s with
  | nil => cases there
  | cons event rest ih =>
    cases event with
    | asked q' answer' =>
      obtain ⟨given, later⟩ := answers
      rcases List.mem_cons.mp there with here | there
      · cases here
        exact ⟨s, given⟩
      · exact ih later there
    | noted n =>
      rcases List.mem_cons.mp there with here | there
      · cases here
      · exact ih answers there

/-- A respondent that answers as in a course brings that course about. -/
theorem perform_of_answers {α : Type} {r : Respondent Q A σ} {d : Dialogue Q A N α} {s s' : σ}
    {events : List (Event Q A N)} {value : α} (course : d.Course events value)
    (answers : r.Answers s events s') : d.perform r s = ⟨value, s', events⟩ := by
  induction d generalizing s events with
  | done a =>
    obtain ⟨rfl, rfl⟩ := course
    rw [Answers] at answers
    rw [answers]
    rfl
  | ask q next ih =>
    obtain ⟨answer, rest, rfl, later⟩ := course
    obtain ⟨rfl, onward⟩ := answers
    simp only [Dialogue.perform, ih _ later onward]
  | note n next ih =>
    obtain ⟨rest, rfl, later⟩ := course
    simp only [Dialogue.perform, ih later answers]

end Respondent

end SlideConverter

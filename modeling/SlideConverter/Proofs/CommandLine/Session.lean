import SlideConverter.Machine.Session
import SlideConverter.Proofs.Conversion.Move
import SlideConverter.Proofs.Json.Printer

/-!
# What happens in a session

The courses of the parts that a session is put together from: a question, a conversion
inside the session, a record for the log, a tree that is printed. Only the last of these
prints anything.
-/

namespace SlideConverter.CommandLine

open Session

abbrev SessionEvent := Event Inquiry Inquiry.Answer Utterance

/-- What is printed, in order. -/
def printed (events : List SessionEvent) : List String := events.filterMap Machine.printedText

@[simp] theorem printed_nil : printed [] = [] := rfl

@[simp] theorem printed_append (first second : List SessionEvent) :
    printed (first ++ second) = printed first ++ printed second :=
  List.filterMap_append

@[simp] theorem printed_asked (i : Inquiry) (answer : i.Answer) (rest : List SessionEvent) :
    printed (.asked i answer :: rest) = printed rest := rfl

variable {α β : Type} {filter : LogFilter} {events : List SessionEvent}

theorem course_inquire_bind {i : Inquiry} {k : i.Answer → Session α} {value : α} :
    (inquire i >>= k).Course events value ↔
      ∃ answer rest, events = .asked i answer :: rest ∧ (k answer).Course rest value :=
  Iff.rfl

/-! ## Conversions inside a session -/

/-- What is to be seen of a conversion: all its questions, and the warnings that are logged. -/
def seen (filter : LogFilter) : ActEvent → Option SessionEvent
  | .asked q answer => some (.asked (.conversion q) answer)
  | .noted w => (record? filter (warningRecord w)).map .noted

theorem during_course {act : Act α} {value : α} :
    (during filter act).Course events value ↔
      ∃ inner, act.Course inner value ∧ events = inner.filterMap (seen filter) := by
  rw [during]
  induction act generalizing events with
  | done a =>
    constructor
    · rintro ⟨rfl, rfl⟩
      exact ⟨[], ⟨rfl, rfl⟩, rfl⟩
    · rintro ⟨_, ⟨rfl, rfl⟩, rfl⟩
      exact ⟨rfl, rfl⟩
  | ask q next ih =>
    constructor
    · rintro ⟨answer, rest, rfl, later⟩
      obtain ⟨inner, course, rfl⟩ := (ih answer).mp later
      exact ⟨.asked q answer :: inner, ⟨answer, inner, rfl, course⟩, rfl⟩
    · rintro ⟨_, ⟨answer, inner, rfl, course⟩, rfl⟩
      exact ⟨answer, _, rfl, (ih answer).mpr ⟨inner, course, rfl⟩⟩
  | note w next ih =>
    rw [Dialogue.embed]
    cases heard : record? filter (warningRecord w) with
    | none =>
      have unseen : seen filter (.noted w) = none := by rw [seen, heard]; rfl
      constructor
      · intro later
        obtain ⟨inner, course, rfl⟩ := ih.mp later
        exact ⟨.noted w :: inner, ⟨inner, rfl, course⟩, by rw [List.filterMap_cons_none unseen]⟩
      · rintro ⟨_, ⟨inner, rfl, course⟩, rfl⟩
        rw [List.filterMap_cons_none unseen]
        exact ih.mpr ⟨inner, course, rfl⟩
    | some u =>
      have noted : seen filter (.noted w) = some (.noted u) := by rw [seen, heard]; rfl
      constructor
      · rintro ⟨rest, rfl, later⟩
        obtain ⟨inner, course, rfl⟩ := ih.mp later
        exact ⟨.noted w :: inner, ⟨inner, rfl, course⟩, by rw [List.filterMap_cons_some noted]⟩
      · rintro ⟨_, ⟨inner, rfl, course⟩, rfl⟩
        rw [List.filterMap_cons_some noted]
        exact ⟨_, rfl, ih.mpr ⟨inner, course, rfl⟩⟩

/-! ## Silence -/

/-- Nothing is printed, whatever is answered. -/
def Silent (d : Session α) : Prop := ∀ events value, d.Course events value → printed events = []

theorem Silent.pure (a : α) : Silent (Pure.pure a) := by
  rintro events value ⟨rfl, -⟩
  rfl

theorem Silent.bind {d : Session α} {k : α → Session β} (first : Silent d)
    (rest : ∀ a, Silent (k a)) : Silent (d >>= k) := by
  intro events value course
  obtain ⟨before, between, after, rfl, one, other⟩ := Dialogue.course_bind.mp course
  rw [printed_append, first _ _ one, rest _ _ _ other, List.append_nil]

theorem Silent.inquire (i : Inquiry) : Silent (Session.inquire i) := by
  rintro events value ⟨answer, rest, rfl, rfl, -⟩
  rfl

theorem Silent.log (filter : LogFilter) (r : LogRecord) : Silent (Session.log filter r) := by
  intro events value course
  rw [Session.log, record?] at course
  split at course
  · rename_i u heard
    split at heard
    · cases heard
      obtain ⟨rest, rfl, rfl, -⟩ := course
      rfl
    · cases heard
  · obtain ⟨rfl, -⟩ := course
    rfl

theorem Silent.during (filter : LogFilter) (act : Act α) : Silent (Session.during filter act) := by
  intro events value course
  obtain ⟨inner, -, rfl⟩ := during_course.mp course
  rw [printed, List.filterMap_filterMap, List.filterMap_eq_nil_iff]
  intro event there
  cases event with
  | asked q answer => rfl
  | noted w =>
    rw [seen, record?]
    split <;> rfl

/-! ## What a session comes to -/

/-- Whatever is answered, the dialogue ends with a value that has `P`. -/
def Comes (d : Session α) (P : α → Prop) : Prop := ∀ events value, d.Course events value → P value

variable {P : α → Prop} {Q : β → Prop}

theorem Comes.pure {a : α} (holds : P a) : Comes (Pure.pure a) P := by
  rintro events value ⟨-, rfl⟩
  exact holds

theorem Comes.bind {d : Session α} {k : α → Session β} (first : Comes d P)
    (rest : ∀ a, P a → Comes (k a) Q) : Comes (d >>= k) Q := by
  intro events value course
  obtain ⟨_, between, _, -, one, other⟩ := Dialogue.course_bind.mp course
  exact rest between (first _ _ one) _ _ other

/-- Nothing is known of the answer to a question. -/
theorem Comes.inquiring {i : Inquiry} {k : i.Answer → Session β}
    (rest : ∀ answer, Comes (k answer) Q) : Comes (Session.inquire i >>= k) Q := by
  rintro events value ⟨answer, later, -, course⟩
  exact rest answer later value course

/-! ## Trees that are printed -/

/-- The text of a tree on standard output, if it has one. -/
def spoken (t : Tree) : List String := (Json.printPretty? t).toList.map (· ++ "\n")

/-- What comes of printing a tree. -/
def printing (t : Tree) : Except Failing Unit := if t.isText then .ok () else .error .unprintable

/-- Either the whole text is printed, or nothing at all. -/
theorem printTree_course {t : Tree} {result : Except Failing Unit} :
    (printTree t).Course events result ↔
      events = (spoken t).map (.noted <| .printed ·) ∧ result = printing t := by
  rw [printTree, printing, spoken, ← Json.isSome_printPretty?]
  cases has : Json.printPretty? t with
  | none => exact Iff.rfl
  | some text =>
    constructor
    · rintro ⟨_, rfl, rfl, rfl⟩
      exact ⟨rfl, rfl⟩
    · rintro ⟨rfl, rfl⟩
      exact ⟨[], rfl, rfl, rfl⟩

theorem printed_spoken (texts : List String) :
    printed (texts.map (.noted <| .printed ·)) = texts := by
  rw [printed, List.filterMap_map]
  exact List.filterMap_some

end SlideConverter.CommandLine

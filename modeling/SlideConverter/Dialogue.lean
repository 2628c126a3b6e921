/-!
# Dialogues

A dialogue asks questions, goes on according to the answers, leaves notes and ends
with a value. It says nothing about who answers. A `Respondent` answers over a state
of its own; performing a dialogue with one gives the value, the new state and the
record of all that was asked, answered and noted. What holds for every respondent is
what holds for all answers.
-/

namespace SlideConverter

universe u

inductive Dialogue (Q : Type) (A : Q → Type) (N : Type) (α : Type u) where
  | done (value : α)
  | ask (question : Q) (next : A question → Dialogue Q A N α)
  | note (entry : N) (next : Dialogue Q A N α)

/-- What happens in a dialogue. -/
inductive Event (Q : Type) (A : Q → Type) (N : Type) where
  | asked (question : Q) (answer : A question)
  | noted (entry : N)

structure Respondent (Q : Type) (A : Q → Type) (σ : Type) where
  answer : (question : Q) → σ → A question × σ

structure Performance (Q : Type) (A : Q → Type) (N : Type) (σ : Type) (α : Type u) where
  value : α
  state : σ
  events : List (Event Q A N)

namespace Dialogue

variable {Q : Type} {A : Q → Type} {N σ : Type} {α β : Type u}

def bind : Dialogue Q A N α → (α → Dialogue Q A N β) → Dialogue Q A N β
  | .done a, k => k a
  | .ask q next, k => .ask q fun answer => (next answer).bind k
  | .note n next, k => .note n (next.bind k)

instance : Monad (Dialogue Q A N) where
  pure := .done
  bind := .bind

/-- Ask and hand on the answer. -/
def question (q : Q) : Dialogue Q A N (A q) := .ask q .done

def remark (n : N) : Dialogue Q A N Unit := .note n (.done ())

def perform (r : Respondent Q A σ) : Dialogue Q A N α → σ → Performance Q A N σ α
  | .done a, s => ⟨a, s, []⟩
  | .ask q next, s =>
    let (answer, s) := r.answer q s
    let rest := (next answer).perform r s
    { rest with events := .asked q answer :: rest.events }
  | .note n next, s =>
    let rest := next.perform r s
    { rest with events := .noted n :: rest.events }

/-- The same dialogue inside one that has more questions and other notes; some notes may
be left out. -/
def embed {Q' : Type} {A' : Q' → Type} {N' : Type} (question : Q → Q')
    (answer : (q : Q) → A' (question q) → A q) (entry : N → Option N') :
    Dialogue Q A N α → Dialogue Q' A' N' α
  | .done a => .done a
  | .ask q next => .ask (question q) fun a => (next (answer q a)).embed question answer entry
  | .note n next =>
    match entry n with
    | some e => .note e (next.embed question answer entry)
    | none => next.embed question answer entry

/-- The same dialogue carried on by others over a state, which answer its questions and pass on
its notes. -/
def relay {Q' : Type} {A' : Q' → Type} {N' α : Type}
    (answer : (q : Q) → σ → Dialogue Q' A' N' (A q × σ)) (entry : N → Dialogue Q' A' N' Unit) :
    Dialogue Q A N α → σ → Dialogue Q' A' N' (α × σ)
  | .done a, s => .done (a, s)
  | .ask q next, s => (answer q s).bind fun (a, s) => (next a).relay answer entry s
  | .note n next, s => (entry n).bind fun _ => next.relay answer entry s

end Dialogue

end SlideConverter

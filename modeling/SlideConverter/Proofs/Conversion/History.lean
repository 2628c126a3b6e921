import SlideConverter.Conversion.Completion
import SlideConverter.Proofs.Dialogue

/-!
# Histories of a converter

Everything a caller can ask of a converter is a call. A history is what comes of a
list of calls, in that order and with any handles, when the surroundings answer as
they like: one exchange for each call, with the converter before and after it. Nothing
is assumed of a caller; `close` may come anywhere.
-/

namespace SlideConverter

inductive Call where
  | start (source workDir : Path)
  | poll (handle : JobHandle)
  | cancel (handle : JobHandle)
  | collectSlides (handle : JobHandle)
  | state (handle : JobHandle)
  | workDir (handle : JobHandle)
  | report (handle : JobHandle)
  | run (handle : JobHandle) (interval : Duration) (deadline : Option Duration) (maxTicks : Nat)
  | close

def Call.isStart : Call → Bool
  | .start _ _ => true
  | _ => false

inductive Response where
  | started (result : Except ConversionError JobHandle)
  | polled (result : Except ConversionError PollResult)
  | cancelled (result : Except ConversionError Unit)
  | slides (result : Except ConversionError SlideCollection)
  | state (result : Except ConversionError JobState)
  | workDir (result : Except ConversionError Path)
  | report (result : Except ConversionError JobReport)
  /-- `none` where the ticks were used up before the job ended. -/
  | ran (result : Option (Except ConversionError PollResult))
  | closed

/-- Only a start that succeeds registers a job. -/
def Response.registers : Response → Bool
  | .started (.ok _) => true
  | _ => false

def Converter.respond (c : Converter) : Call → Act (Response × Converter)
  | .start source workDir => do
    let (result, c) ← c.start source workDir
    return (.started result, c)
  | .poll handle => do
    let (result, c) ← c.poll handle
    return (.polled result, c)
  | .cancel handle => do
    let (result, c) ← c.cancel handle
    return (.cancelled result, c)
  | .collectSlides handle => do
    let result ← c.collectSlides handle
    return (.slides result, c)
  | .state handle => return (.state (c.state handle), c)
  | .workDir handle => return (.workDir (c.workDir handle), c)
  | .report handle => return (.report (c.report handle), c)
  | .run handle interval deadline maxTicks => do
    let (result, c) ← c.runToCompletion handle interval deadline maxTicks
    return (.ran result, c)
  | .close => do
    let c ← c.close
    return (.closed, c)

/-- One call with what came of it; `world` is the state of the surroundings after it. -/
structure Exchange (σ : Type) where
  before : Converter
  call : Call
  response : Response
  events : List ActEvent
  after : Converter
  world : σ

structure History (σ : Type) where
  exchanges : List (Exchange σ)
  converter : Converter
  world : σ

namespace History

variable {σ : Type}

def events (h : History σ) : List ActEvent := h.exchanges.flatMap (·.events)

def of (r : Surroundings σ) : List Call → Converter → σ → History σ
  | [], c, s => ⟨[], c, s⟩
  | call :: rest, c, s =>
    let p := (c.respond call).perform r s
    let later := of r rest p.value.2 p.state
    { later with
      exchanges := ⟨c, call, p.value.1, p.events, p.value.2, p.state⟩ :: later.exchanges }

/-- An exchange is a course of the response to its call. -/
def Genuine (e : Exchange σ) : Prop :=
  (e.before.respond e.call).Course e.events (e.response, e.after)

/-- Exchanges that lead from one converter and state of the surroundings to another. -/
def Linked (r : Surroundings σ) : Converter → σ → List (Exchange σ) → Converter → σ → Prop
  | c, s, [], c', s' => c' = c ∧ s' = s
  | c, s, e :: rest, c', s' =>
    e.before = c ∧ (c.respond e.call).perform r s = ⟨(e.response, e.after), e.world, e.events⟩ ∧
      Linked r e.after e.world rest c' s'

variable {r : Surroundings σ} {c c' : Converter} {s s' : σ}
  {exchanges first second : List (Exchange σ)}

theorem of_linked (r : Surroundings σ) (calls : List Call) (c : Converter) (s : σ) :
    Linked r c s (of r calls c s).exchanges (of r calls c s).converter (of r calls c s).world := by
  induction calls generalizing c s with
  | nil => exact ⟨rfl, rfl⟩
  | cons call rest ih => exact ⟨rfl, rfl, ih _ _⟩

theorem calls_of (r : Surroundings σ) (calls : List Call) (c : Converter) (s : σ) :
    (of r calls c s).exchanges.map (·.call) = calls := by
  induction calls generalizing c s with
  | nil => rfl
  | cons call rest ih => simp only [of, List.map_cons, ih]

theorem linked_append : Linked r c s (first ++ second) c' s' ↔
    ∃ between world, Linked r c s first between world ∧ Linked r between world second c' s' := by
  induction first generalizing c s with
  | nil =>
    constructor
    · intro linked
      exact ⟨c, s, ⟨rfl, rfl⟩, linked⟩
    · rintro ⟨_, _, ⟨rfl, rfl⟩, linked⟩
      exact linked
  | cons e rest ih => simp [Linked, ih, and_assoc]

theorem genuine_of_perform {e : Exchange σ} (same : e.before = c)
    (performed : (c.respond e.call).perform r s = ⟨(e.response, e.after), e.world, e.events⟩) :
    Genuine e := by
  have course := (c.respond e.call).perform_course r s
  rw [performed] at course
  rw [Genuine, same]
  exact course

/-- What every response keeps holds throughout linked exchanges. -/
theorem Linked.keeps (P : Converter → Prop)
    (kept : ∀ c call events response c', P c →
      (c.respond call).Course events (response, c') → P c')
    (linked : Linked r c s exchanges c' s') (start : P c) :
    P c' ∧ ∀ e ∈ exchanges, P e.before ∧ Genuine e := by
  induction exchanges generalizing c s with
  | nil =>
    obtain ⟨rfl, -⟩ := linked
    exact ⟨start, fun e he => by cases he⟩
  | cons e rest ih =>
    obtain ⟨same, performed, later⟩ := linked
    have genuine := genuine_of_perform same performed
    have begins : P e.before := same ▸ start
    obtain ⟨last, each⟩ := ih later (kept _ _ _ _ _ begins genuine)
    exact ⟨last, List.forall_mem_cons.mpr ⟨⟨begins, genuine⟩, each⟩⟩

theorem of_append (r : Surroundings σ) (first second : List Call) (c : Converter) (s : σ) :
    of r (first ++ second) c s =
      let h := of r first c s
      let later := of r second h.converter h.world
      { later with exchanges := h.exchanges ++ later.exchanges } := by
  induction first generalizing c s with
  | nil => rfl
  | cons call rest ih => simp [of, ih]

end History

end SlideConverter

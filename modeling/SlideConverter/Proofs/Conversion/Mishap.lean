import SlideConverter.Proofs.Conversion.History

/-!
# Mishaps while cleaning up

Whether a tool can be killed and a working directory removed makes no difference to a
conversion. Two surroundings that answer alike, but for those two questions, are asked the
same and get the same responses; only the warnings differ.
-/

namespace SlideConverter

/-- The questions whose answers are only noted. -/
def Question.isCleanup : Question → Bool
  | .kill _ | .removeDirAll _ => true
  | _ => false

def Warning.isMishap : Warning → Bool
  | .killFailed _ _ _ | .cleanupFailed _ _ => true
  | _ => false

/-- An event without what is left open: the answers about cleaning up, and the warnings that
come of them. -/
def settleEvent : ActEvent → Option ActEvent
  | .asked (.kill process) _ => some (.asked (.kill process) (.ok ()))
  | .asked (.removeDirAll path) _ => some (.asked (.removeDirAll path) (.ok ()))
  | .asked question answer => some (.asked question answer)
  | .noted warning => if warning.isMishap then none else some (.noted warning)

def settle (events : List ActEvent) : List ActEvent := events.filterMap settleEvent

theorem settle_append (first second : List ActEvent) :
    settle (first ++ second) = settle first ++ settle second :=
  List.filterMap_append

theorem settle_cons (event : ActEvent) (events : List ActEvent) :
    settle (event :: events) = (settleEvent event).toList ++ settle events := by
  cases settled : settleEvent event with
  | none => exact List.filterMap_cons_none settled
  | some e => exact List.filterMap_cons_some settled

variable {σ τ : Type}

/-- Surroundings that answer alike, but for questions of cleaning up. -/
structure Alike (r : Surroundings σ) (r' : Surroundings τ) (related : σ → τ → Prop) : Prop where
  answers : ∀ question s s', related s s' → question.isCleanup = false →
    (r.answer question s).1 = (r'.answer question s').1
  states : ∀ question s s', related s s' →
    related (r.answer question s).2 (r'.answer question s').2

variable {r : Surroundings σ} {r' : Surroundings τ} {related : σ → τ → Prop} {α β : Type}

/-- From related states the two dialogues go alike and end with the same value. -/
def Matches (r : Surroundings σ) (r' : Surroundings τ) (related : σ → τ → Prop)
    (d d' : Act α) : Prop :=
  ∀ s s', related s s' →
    (d.perform r s).value = (d'.perform r' s').value ∧
    related (d.perform r s).state (d'.perform r' s').state ∧
    settle (d.perform r s).events = settle (d'.perform r' s').events

namespace Matches

variable {d d' : Act α} {k k' : α → Act β}

theorem pure (a : α) : Matches r r' related (Pure.pure a) (Pure.pure a) :=
  fun _ _ alike => ⟨rfl, alike, rfl⟩

theorem bind (first : Matches r r' related d d') (rest : ∀ a, Matches r r' related (k a) (k' a)) :
    Matches r r' related (d >>= k) (d' >>= k') := by
  intro s s' alike
  obtain ⟨value, states, events⟩ := first s s' alike
  obtain ⟨value', states', events'⟩ := rest (d.perform r s).value _ _ states
  simp only [Dialogue.perform_bind, settle_append, ← value, events, events']
  exact ⟨value', states', trivial⟩

theorem question (alike : Alike r r' related) (q : Question) (plain : q.isCleanup = false) :
    Matches r r' related (ask q) (ask q) := by
  intro s s' here
  have same := alike.answers q s s' here plain
  refine ⟨same, alike.states q s s' here, ?_⟩
  change settle [.asked q (r.answer q s).1] = settle [.asked q (r'.answer q s').1]
  rw [same]

theorem remark (w : Warning) : Matches r r' related (warn w) (warn w) :=
  fun _ _ alike => ⟨rfl, alike, rfl⟩

/-- Where a question of cleaning up is asked, any answer may be given on either side. -/
theorem cleanup (alike : Alike r r' related) {q : Question} (asked : q.isCleanup = true)
    {k k' : q.Answer → Act β} (rest : ∀ a a', Matches r r' related (k a) (k' a')) :
    Matches r r' related (ask q >>= k) (ask q >>= k') := by
  intro s s' here
  obtain ⟨value, states, events⟩ := rest (r.answer q s).1 (r'.answer q s').1 _ _
    (alike.states q s s' here)
  have hidden : settleEvent (.asked q (r.answer q s).1) =
      settleEvent (.asked q (r'.answer q s').1) := by
    cases q <;> first | rfl | cases asked
  refine ⟨value, states, ?_⟩
  change settle (.asked q (r.answer q s).1 :: ((k (r.answer q s).1).perform r _).events) =
    settle (.asked q (r'.answer q s').1 :: ((k' (r'.answer q s').1).perform r' _).events)
  rw [settle_cons, settle_cons, hidden, events]

theorem mishap_left {w : Warning} (mishap : w.isMishap = true) {k : Unit → Act α}
    (rest : Matches r r' related (k ()) d') : Matches r r' related (warn w >>= k) d' := by
  intro s s' here
  obtain ⟨value, states, events⟩ := rest s s' here
  refine ⟨value, states, ?_⟩
  change settle (.noted w :: ((k ()).perform r s).events) = _
  rw [settle_cons, settleEvent, if_pos mishap, events]
  rfl

theorem mishap_right {w : Warning} (mishap : w.isMishap = true) {k' : Unit → Act α}
    (rest : Matches r r' related d (k' ())) : Matches r r' related d (warn w >>= k') := by
  intro s s' here
  obtain ⟨value, states, events⟩ := rest s s' here
  refine ⟨value, states, ?_⟩
  change _ = settle (.noted w :: ((k' ()).perform r' s').events)
  rw [settle_cons, settleEvent, if_pos mishap, events]
  rfl

end Matches

/-! ## The converter -/

theorem Job.advance_matches (job : Job) (next : JobState) :
    Matches r r' related (job.advance next) (job.advance next) := by
  rw [advance]
  split
  · exact .bind (.remark _) fun _ => .pure _
  · exact .pure _

section

variable (alike : Alike r r' related)
include alike

namespace Job

theorem launch_matches (job : Job) (invocation : Invocation) (next : JobState) :
    Matches r r' related (job.launch invocation next) (job.launch invocation next) := by
  rw [launch]
  refine .bind (.question alike _ rfl) fun answer => ?_
  cases answer with
  | error cause => exact .pure _
  | ok process =>
    refine .bind (.question alike _ rfl) fun started => ?_
    exact .bind (advance_matches _ _) fun _ => .pure _

theorem rasterize_matches (config : Config) (job : Job) :
    Matches r r' related (job.rasterize config) (job.rasterize config) := by
  rw [rasterize]
  refine .bind (.question alike _ rfl) fun answer => ?_
  cases answer with
  | error cause => exact .pure _
  | ok entries =>
    dsimp only
    split
    · exact .pure _
    · exact launch_matches alike _ _ _

theorem finish_matches (config : Config) (job : Job) :
    Matches r r' related (job.finish config) (job.finish config) := by
  rw [finish]
  split
  · exact .bind (advance_matches _ _) fun _ => .pure _
  · split
    · exact .bind (advance_matches _ _) fun _ => .pure _
    · refine .bind (.question alike _ rfl) fun answer => ?_
      cases answer with
      | error cause => exact .pure _
      | ok done => exact .bind (advance_matches _ _) fun _ => .pure _

theorem step_matches (config : Config) (job : Job) :
    Matches r r' related (job.step config) (job.step config) := by
  rw [step]
  split
  · split <;> exact launch_matches alike _ _ _
  · split
    · exact .pure _
    · refine .bind (.question alike _ rfl) fun answer => ?_
      match answer with
      | .error cause => exact .pure _
      | .ok none => exact .pure _
      | .ok (some exit) =>
        refine .bind (.question alike _ rfl) fun now => ?_
        rw [afterExit]
        split
        · split
          · exact rasterize_matches alike _ _
          · exact finish_matches alike _ _
          · exact .pure _
        · exact .pure _

theorem killTool_matches (job : Job) : Matches r r' related job.killTool job.killTool := by
  rw [killTool]
  split
  · exact .pure _
  · rename_i tool held
    refine .cleanup alike rfl fun a a' => ?_
    have rest : Matches r r' related
        (ask .clock >>= fun time => pure (job.dismiss (tool.elapsedMs time)))
        (ask .clock >>= fun time => pure (job.dismiss (tool.elapsedMs time))) :=
      .bind (.question alike _ rfl) fun _ => .pure _
    cases a <;> cases a'
    · exact .mishap_left rfl (.mishap_right rfl rest)
    · exact .mishap_left rfl rest
    · exact .mishap_right rfl rest
    · exact rest

theorem removeWorkDir_matches (workDir : Path) :
    Matches r r' related (removeWorkDir workDir) (removeWorkDir workDir) := by
  rw [removeWorkDir]
  refine .bind (.question alike _ rfl) fun there => ?_
  cases there with
  | false => exact .pure _
  | true =>
    refine .cleanup alike rfl fun a a' => ?_
    cases a <;> cases a'
    · exact .mishap_left rfl (.mishap_right rfl (.pure _))
    · exact .mishap_left rfl (.pure _)
    · exact .mishap_right rfl (.pure _)
    · exact .pure _

theorem abort_matches (job : Job) (last : JobState) :
    Matches r r' related (job.abort last) (job.abort last) := by
  rw [abort]
  refine .bind (killTool_matches alike job) fun freed => ?_
  exact .bind (removeWorkDir_matches alike _) fun _ => advance_matches _ _

end Job

namespace Converter

variable (c : Converter)

theorem stageSource_matches (config : Config) (source workDir : Path) (preexisting : Bool) :
    Matches r r' related (stageSource config source workDir preexisting)
      (stageSource config source workDir preexisting) := by
  rw [stageSource]
  split
  · split
    · exact .pure _
    · refine .bind (.question alike _ rfl) fun answer => ?_
      cases answer with
      | error cause =>
        cases preexisting with
        | true => exact .pure _
        | false => exact .bind (Job.removeWorkDir_matches alike _) fun _ => .pure _
      | ok done => exact .pure _
  · exact .pure _

theorem prepareWorkDir_matches (workDir : Path) :
    Matches r r' related (prepareWorkDir workDir) (prepareWorkDir workDir) := by
  rw [prepareWorkDir]
  refine .bind (.question alike _ rfl) fun there => ?_
  cases there with
  | false =>
    refine .bind (.question alike _ rfl) fun made => ?_
    cases made <;> exact .pure _
  | true =>
    refine .bind (.question alike _ rfl) fun empty => ?_
    rcases empty with cause | (_ | _)
    · exact .pure _
    · exact .pure _
    · refine .bind (.question alike _ rfl) fun writable => ?_
      cases writable with
      | error cause => exact .pure _
      | ok done =>
        refine .bind (.question alike _ rfl) fun made => ?_
        cases made <;> exact .pure _

theorem start_matches (source workDir : Path) :
    Matches r r' related (c.start source workDir) (c.start source workDir) := by
  rw [start]
  split
  · exact .pure _
  · have prepared : Matches r r' related (prepare c.config source workDir)
        (prepare c.config source workDir) := by
      rw [prepare]
      split
      · exact .pure _
      · refine .bind (.question alike _ rfl) fun readable => ?_
        cases readable with
        | error cause => exact .pure _
        | ok done =>
          refine .bind (prepareWorkDir_matches alike workDir) fun housed => ?_
          cases housed with
          | error e => exact .pure _
          | ok preexisting => exact stageSource_matches alike _ _ _ _
    refine .bind prepared fun staged => ?_
    cases staged <;> exact .pure _

theorem poll_matches (handle : JobHandle) :
    Matches r r' related (c.poll handle) (c.poll handle) := by
  rw [poll]
  split
  · exact .pure _
  · split
    · exact .pure _
    · refine .bind (Job.step_matches alike _ _) fun moved => ?_
      obtain ⟨job, fault⟩ := moved
      cases fault with
      | none => exact .pure _
      | some fault =>
        exact .bind (.remark _) fun _ => .bind (Job.abort_matches alike _ _) fun _ => .pure _

theorem cancel_matches (handle : JobHandle) :
    Matches r r' related (c.cancel handle) (c.cancel handle) := by
  rw [cancel]
  split
  · exact .pure _
  · split
    · exact .pure _
    · exact .bind (Job.abort_matches alike _ _) fun _ => .pure _

theorem collectSlides_matches (handle : JobHandle) :
    Matches r r' related (c.collectSlides handle) (c.collectSlides handle) := by
  rw [collectSlides]
  split
  · exact .pure _
  · split
    · split
      · exact .pure _
      · refine .bind (.question alike _ rfl) fun answer => ?_
        cases answer <;> exact .pure _
    · exact .pure _

theorem close_matches : Matches r r' related c.close c.close := by
  rw [close]
  split
  · exact .pure _
  · exact .bind (.remark _) fun _ => .bind (Job.abort_matches alike _ _) fun _ => .pure _

theorem runTicks_matches (handle : JobHandle) (interval : Duration) (deadline : Option Duration)
    (started : Duration) (ticks : Nat) :
    Matches r r' related (runTicks handle interval deadline started ticks c)
      (runTicks handle interval deadline started ticks c) := by
  induction ticks generalizing c with
  | zero => exact .pure _
  | succ ticks ih =>
    rw [runTicks]
    refine .bind (poll_matches alike c handle) fun polled => ?_
    obtain ⟨result, c⟩ := polled
    cases result with
    | error e => exact .pure _
    | ok result =>
      dsimp only
      split
      · exact .pure _
      · refine .bind (.question alike _ rfl) fun now => ?_
        split
        · refine .bind (.remark _) fun _ => ?_
          refine .bind (cancel_matches alike c handle) fun cancelled => ?_
          obtain ⟨result, c⟩ := cancelled
          cases result <;> exact .pure _
        · exact .bind (.question alike _ rfl) fun _ => ih c

theorem respond_matches (call : Call) :
    Matches r r' related (c.respond call) (c.respond call) := by
  cases call with
  | start source workDir => exact .bind (start_matches alike c _ _) fun _ => .pure _
  | poll handle => exact .bind (poll_matches alike c _) fun _ => .pure _
  | cancel handle => exact .bind (cancel_matches alike c _) fun _ => .pure _
  | collectSlides handle => exact .bind (collectSlides_matches alike c _) fun _ => .pure _
  | state | workDir | report => exact .pure _
  | run handle interval deadline maxTicks =>
    refine .bind ?_ fun _ => .pure _
    exact .bind (.question alike _ rfl) fun _ => runTicks_matches alike c _ _ _ _ _
  | close => exact .bind (close_matches alike c) fun _ => .pure _

end Converter

end

/-- What is settled by an exchange whatever comes of cleaning up. -/
structure Exchange.Settled where
  call : Call
  response : Response
  events : List ActEvent
  after : Converter

def Exchange.settled (e : Exchange σ) : Exchange.Settled :=
  ⟨e.call, e.response, settle e.events, e.after⟩

theorem History.settled_eq (alike : Alike r r' related) (calls : List Call) (c : Converter)
    {s : σ} {s' : τ} (here : related s s') :
    (History.of r calls c s).exchanges.map (·.settled) =
      (History.of r' calls c s').exchanges.map (·.settled) := by
  induction calls generalizing c s s' with
  | nil => rfl
  | cons call rest ih =>
    obtain ⟨value, states, events⟩ := Converter.respond_matches alike c call s s' here
    have later := ih ((c.respond call).perform r s).value.2 states
    rw [History.of, History.of, ← value]
    refine List.cons_eq_cons.mpr ⟨?_, later⟩
    simp only [Exchange.settled, events, value]

end SlideConverter

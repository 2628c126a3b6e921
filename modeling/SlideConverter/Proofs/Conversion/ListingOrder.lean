import Mathlib.Data.List.Nodup
import SlideConverter.Proofs.Conversion.History
import SlideConverter.Proofs.Path
import SlideConverter.Proofs.Slide
import SlideConverter.Rehearsal.Obliging

/-!
# The order of a listing

The entries of a directory are listed in no particular order. Two surroundings that answer
alike, but for that order, are asked the same and get the same responses: the page-description
file that is taken and the order of the slides depend on what is listed alone. The time does not
count either, but for how long a tool has been at work, and for a run that has a deadline.
-/

namespace SlideConverter

open Text Rehearsal

/-! ## What is taken from a listing -/

/-- Sorting undoes a change of order, where no two different members count as the same. -/
theorem mergeSort_eq_of_perm {α : Type} {le : α → α → Bool} {l l' : List α} (perm : l.Perm l')
    (trans : ∀ a b c, le a b = true → le b c = true → le a c = true)
    (total : ∀ a b, le a b = true ∨ le b a = true)
    (antisymm : ∀ a ∈ l, ∀ b ∈ l, le a b = true → le b a = true → a = b) :
    l.mergeSort le = l'.mergeSort le := by
  have total : ∀ a b, (le a b || le b a) = true := by simpa using total
  have sorted : (l.mergeSort le).Perm (l'.mergeSort le) :=
    (List.mergeSort_perm l le).trans (perm.trans (List.mergeSort_perm l' le).symm)
  refine sorted.eq_of_pairwise ?_ (List.pairwise_mergeSort trans total l)
    (List.pairwise_mergeSort trans total l')
  intro a b ha hb
  rw [List.mem_mergeSort] at ha hb
  exact antisymm a ha b (perm.mem_iff.mpr hb)

/-- Directly below `dir`, whatever slashes and dots the two are written with. -/
def Path.IsChildOf (p dir : Path) : Prop :=
  ∃ name, p.components = dir.components ++ [.name name]

/-- The same entries of `dir`, all different, perhaps in another order. -/
structure Reordered (dir : Path) (entries entries' : List Path) : Prop where
  perm : entries.Perm entries'
  children : ∀ p ∈ entries, p.IsChildOf dir
  distinct : (entries.map Path.components).Nodup

section

variable {dir p q : Path} {entries entries' : List Path}

theorem Path.IsChildOf.components_eq (hp : p.IsChildOf dir) (hq : q.IsChildOf dir)
    (same : p.fileName = q.fileName) : p.components = q.components := by
  obtain ⟨name, p_eq⟩ := hp
  obtain ⟨name', q_eq⟩ := hq
  have names : name = name' := by simpa [fileName, p_eq, q_eq] using same
  rw [p_eq, q_eq, names]

theorem Path.IsChildOf.fileName_eq (hp : p.IsChildOf dir) (hq : q.IsChildOf dir)
    (same : p.orderKey = q.orderKey) : p.fileName = q.fileName := by
  obtain ⟨name, p_eq⟩ := hp
  obtain ⟨name', q_eq⟩ := hq
  have keys : name.map (·.toNat + 1) = name'.map (·.toNat + 1) := by
    simpa [orderKey, p_eq, q_eq, Component.orderKey] using same
  have injective : Function.Injective fun b : UInt8 => b.toNat + 1 :=
    fun _ _ h => UInt8.toNat_inj.mp (Nat.succ_injective h)
  have names : name = name' := List.map_injective_iff.mpr injective keys
  simp [fileName, p_eq, q_eq, names]

theorem Reordered.eq_of_fileName (reordered : Reordered dir entries entries') (hp : p ∈ entries)
    (hq : q ∈ entries) (same : p.fileName = q.fileName) : p = q :=
  List.inj_on_of_nodup_map reordered.distinct hp hq
    ((reordered.children p hp).components_eq (reordered.children q hq) same)

/-- The least page-description file is the same in every order. -/
theorem Reordered.leastIntermediate_eq (reordered : Reordered dir entries entries')
    (options : PipelineOptions) :
    Job.leastIntermediate options entries = Job.leastIntermediate options entries' := by
  have sorted : (entries.filter options.isIntermediate).mergeSort Path.le =
      (entries'.filter options.isIntermediate).mergeSort Path.le := by
    refine mergeSort_eq_of_perm (reordered.perm.filter _) (fun _ _ _ => Path.le_trans)
      Path.le_total ?_
    intro p hp q hq le ge
    have hp := List.mem_of_mem_filter hp
    have hq := List.mem_of_mem_filter hq
    rw [Path.le_iff] at le ge
    exact reordered.eq_of_fileName hp hq ((reordered.children p hp).fileName_eq
      (reordered.children q hq) (le_antisymm le ge))
  rw [Job.leastIntermediate, Job.leastIntermediate, sorted]

end

namespace SlideCollection

/-- The slides are the same, and in the same order, in whatever order they are listed. -/
theorem ofEntries_eq_of_reordered {dir : Path} {entries entries' : List Path}
    (reordered : Reordered dir entries entries') (options : PipelineOptions) :
    ofEntries options entries = ofEntries options entries' := by
  have sorted : (entries.filterMap (frame? options)).mergeSort Frame.le =
      (entries'.filterMap (frame? options)).mergeSort Frame.le := by
    refine mergeSort_eq_of_perm (reordered.perm.filterMap _) (fun _ _ _ => Frame.le_trans)
      Frame.le_total ?_
    intro a ha b hb le ge
    obtain ⟨p, hp, a_framed⟩ := List.mem_filterMap.mp ha
    obtain ⟨q, hq, b_framed⟩ := List.mem_filterMap.mp hb
    have named : p.fileName = q.fileName := by
      rw [(frame?_eq_some a_framed).2.1, (frame?_eq_some b_framed).2.1, Frame.name_eq_of_le le ge]
    rw [reordered.eq_of_fileName hp hq named, b_framed] at a_framed
    exact (Option.some.inj a_framed).symm
  rw [ofEntries, ofEntries, sorted]

end SlideCollection

/-! ## Two dialogues side by side -/

inductive SameListing (dir : Path) : Reply (List Path) → Reply (List Path) → Prop
  | refused (cause : ErrorChain) : SameListing dir (.error cause) (.error cause)
  | listed {entries entries' : List Path} (reordered : Reordered dir entries entries') :
    SameListing dir (.ok entries) (.ok entries')

/-- Answers that are the same but for the order of a listing, and for the time unless the clocks
are `steady`. -/
def SameAnswer (steady : Prop) : (q : Question) → q.Answer → q.Answer → Prop
  | .listDir dir, answer, answer' => SameListing dir answer answer'
  | .clock, time, time' => steady → time = time'
  | _, answer, answer' => answer = answer'

inductive SameEvent (steady : Prop) : ActEvent → ActEvent → Prop
  | asked {q : Question} {answer answer' : q.Answer} (same : SameAnswer steady q answer answer') :
    SameEvent steady (.asked q answer) (.asked q answer')
  | noted (w : Warning) : SameEvent steady (.noted w) (.noted w)

/-- The same is asked and noted in both dialogues, as long as they get the same answers, and what
they end with is related by `V`. -/
inductive Paired (steady : Prop) {α β : Type} (V : α → β → Prop) : Act α → Act β → Prop
  | done {a : α} {b : β} (ends : V a b) : Paired steady V (.done a) (.done b)
  | ask (q : Question) {next : q.Answer → Act α} {next' : q.Answer → Act β}
      (rest : ∀ answer answer', SameAnswer steady q answer answer' →
        Paired steady V (next answer) (next' answer')) :
    Paired steady V (.ask q next) (.ask q next')
  | note (w : Warning) {next : Act α} {next' : Act β} (rest : Paired steady V next next') :
    Paired steady V (.note w next) (.note w next')

namespace Paired

variable {steady : Prop} {α β γ δ : Type} {V : α → β → Prop} {W : γ → δ → Prop}

theorem pure {a : α} {b : β} (ends : V a b) : Paired steady V (Pure.pure a) (Pure.pure b) :=
  .done ends

theorem bind {d : Act α} {d' : Act β} {k : α → Act γ} {k' : β → Act δ}
    (first : Paired steady V d d') (rest : ∀ a b, V a b → Paired steady W (k a) (k' b)) :
    Paired steady W (d >>= k) (d' >>= k') := by
  induction first with
  | done ends => exact rest _ _ ends
  | ask q _ ih => exact .ask q ih
  | note w _ ih => exact .note w ih

/-- A question, and what follows it. -/
theorem asking (q : Question) {k : q.Answer → Act α} {k' : q.Answer → Act β}
    (rest : ∀ answer answer', SameAnswer steady q answer answer' →
      Paired steady V (k answer) (k' answer')) :
    Paired steady V (SlideConverter.ask q >>= k) (SlideConverter.ask q >>= k') :=
  .ask q rest

theorem warning (w : Warning) {k : Unit → Act α} {k' : Unit → Act β}
    (rest : Paired steady V (k ()) (k' ())) :
    Paired steady V (warn w >>= k) (warn w >>= k') :=
  .note w rest

end Paired

/-- Surroundings that from related states give the same answers, but for the order of listings and
for the time. -/
structure Agree {σ τ : Type} (steady : Prop) (r : Surroundings σ) (r' : Surroundings τ)
    (related : σ → τ → Prop) : Prop where
  answers : ∀ q s s', related s s' → SameAnswer steady q (r.answer q s).1 (r'.answer q s').1
  states : ∀ q s s', related s s' → related (r.answer q s).2 (r'.answer q s').2

theorem Paired.perform {σ τ α β : Type} {steady : Prop} {r : Surroundings σ} {r' : Surroundings τ}
    {related : σ → τ → Prop} {V : α → β → Prop} {d : Act α} {d' : Act β} {s : σ} {s' : τ}
    (agree : Agree steady r r' related) (paired : Paired steady V d d') (here : related s s') :
    V (d.perform r s).value (d'.perform r' s').value ∧
      related (d.perform r s).state (d'.perform r' s').state ∧
      List.Forall₂ (SameEvent steady) (d.perform r s).events (d'.perform r' s').events := by
  induction paired generalizing s s' with
  | done ends => exact ⟨ends, here, .nil⟩
  | ask q _ ih =>
    have same := agree.answers q s s' here
    obtain ⟨value, states, events⟩ := ih _ _ same (agree.states q s s' here)
    exact ⟨value, states, .cons (.asked same) events⟩
  | note w _ ih =>
    obtain ⟨value, states, events⟩ := ih here
    exact ⟨value, states, .cons (.noted w) events⟩

/-! ## The converter -/

/-- A report of a stage without how long it took. -/
def StageReport.timeless (s : StageReport) : StageReport := { s with elapsedMs := 0 }

def RunningTool.timeless (t : RunningTool) : RunningTool := { t with started := ⟨0⟩ }

def Job.timeless (job : Job) : Job :=
  { job with
    running := job.running.map RunningTool.timeless
    stages := job.stages.map StageReport.timeless }

def JobReport.timeless (report : JobReport) : JobReport :=
  { report with stages := report.stages.map StageReport.timeless }

def Converter.timeless (c : Converter) : Converter := { c with job := c.job.map Job.timeless }

def Response.timeless : Response → Response
  | .report result => .report (result.map JobReport.timeless)
  | response => response

/-- A run that may be cut short by the clock. -/
def Call.isTimed : Call → Bool
  | .run _ _ deadline _ => deadline.isSome
  | _ => false

namespace Job

/-- The same job, but for the time. -/
def Same (job job' : Job) : Prop := job.timeless = job'.timeless

/-- A job after a step, with the fault that the step has ended in. -/
def SameMoved (moved moved' : Job × Option Fault) : Prop :=
  Same moved.1 moved'.1 ∧ moved.2 = moved'.2

variable {steady : Prop} {job job' : Job}

theorem same_iff : Same job job' ↔ job.handle = job'.handle ∧ job.source = job'.source ∧
    job.workDir = job'.workDir ∧ job.state = job'.state ∧
    job.running.map RunningTool.timeless = job'.running.map RunningTool.timeless ∧
    job.intermediate = job'.intermediate ∧ job.skippedIntermediate = job'.skippedIntermediate ∧
    job.stages.map StageReport.timeless = job'.stages.map StageReport.timeless := by
  simp [Same, timeless]

/-- A change of the last report stays one, whatever time it writes down. -/
theorem same_updateLast {f f' : StageReport → StageReport} {stages stages' : List StageReport}
    (alike : ∀ s s', s.timeless = s'.timeless → (f s).timeless = (f' s').timeless)
    (same : stages.map StageReport.timeless = stages'.map StageReport.timeless) :
    (updateLast f stages).map StageReport.timeless =
      (updateLast f' stages').map StageReport.timeless := by
  induction stages generalizing stages' with
  | nil =>
    rw [List.map_eq_nil_iff.mp same.symm]
    rfl
  | cons s rest ih =>
    cases stages' with
    | nil => cases same
    | cons s' rest' =>
      obtain ⟨first, later⟩ := List.cons.inj same
      cases rest with
      | nil =>
        rw [List.map_eq_nil_iff.mp later.symm]
        simp [updateLast, alike s s' first]
      | cons => cases rest' with
        | nil => cases later
        | cons => simpa [updateLast, first] using ih later

theorem Same.release (same : Same job job') (exit : ToolExit) (elapsedMs elapsedMs' : UInt64) :
    Same (job.release exit elapsedMs) (job'.release exit elapsedMs') := by
  obtain ⟨handle, source, workDir, state, -, intermediate, skipped, stages⟩ := same_iff.mp same
  refine same_iff.mpr ⟨handle, source, workDir, state, rfl, intermediate, skipped, ?_⟩
  refine same_updateLast (fun s s' alike => ?_) stages
  simp_all [StageReport.timeless]

theorem Same.dismiss (same : Same job job') (elapsedMs elapsedMs' : UInt64) :
    Same (job.dismiss elapsedMs) (job'.dismiss elapsedMs') := by
  obtain ⟨handle, source, workDir, state, -, intermediate, skipped, stages⟩ := same_iff.mp same
  refine same_iff.mpr ⟨handle, source, workDir, state, rfl, intermediate, skipped, ?_⟩
  refine same_updateLast (fun s s' alike => ?_) stages
  simp_all [StageReport.timeless]

theorem Same.hold (same : Same job job') (invocation : Invocation) (process : ToolProcess)
    (time time' : Duration) :
    Same (job.hold invocation process time) (job'.hold invocation process time') := by
  obtain ⟨handle, source, workDir, state, -, intermediate, skipped, stages⟩ := same_iff.mp same
  refine same_iff.mpr ⟨handle, source, workDir, state, rfl, intermediate, skipped, ?_⟩
  simp [Job.hold, stages]

theorem Same.withIntermediate (same : Same job job') (path : Option Path) :
    Same { job with intermediate := path } { job' with intermediate := path } := by
  obtain ⟨handle, source, workDir, state, running, -, skipped, stages⟩ := same_iff.mp same
  exact same_iff.mpr ⟨handle, source, workDir, state, running, rfl, skipped, stages⟩

/-- Both hold a tool, the same one, or neither does. -/
theorem Same.running (same : Same job job') :
    job.running = none ∧ job'.running = none ∨ ∃ tool tool', job.running = some tool ∧
      job'.running = some tool' ∧ tool.process = tool'.process ∧ tool.program = tool'.program := by
  obtain ⟨-, -, -, -, running, -⟩ := same_iff.mp same
  cases held : job.running <;> cases held' : job'.running <;>
    simp_all [RunningTool.timeless]

theorem advance_paired (same : Same job job') (next : JobState) :
    Paired steady Same (job.advance next) (job'.advance next) := by
  obtain ⟨handle, source, workDir, state, running, intermediate, skipped, stages⟩ :=
    same_iff.mp same
  have moved : Same { job with state := next } { job' with state := next } :=
    same_iff.mpr ⟨handle, source, workDir, rfl, running, intermediate, skipped, stages⟩
  rw [advance, advance, ← state]
  split
  · exact .warning _ (.pure moved)
  · exact .pure moved

theorem launch_paired (same : Same job job') (invocation : Invocation) (next : JobState) :
    Paired steady SameMoved (job.launch invocation next) (job'.launch invocation next) := by
  refine .asking (.launch invocation) fun answer answer' alike => ?_
  cases alike
  cases answer with
  | error cause => exact .pure ⟨same, rfl⟩
  | ok process =>
    refine .asking .clock fun time time' _ => ?_
    refine .bind (advance_paired (same.hold invocation process time time') next) ?_
    exact fun _ _ moved => .pure ⟨moved, rfl⟩

theorem rasterize_paired (config : Config) (same : Same job job') :
    Paired steady SameMoved (job.rasterize config) (job'.rasterize config) := by
  obtain ⟨handle, source, workDir, state, running, -, skipped, stages⟩ := same_iff.mp same
  rw [rasterize, rasterize, ← workDir]
  refine .asking (.listDir job.workDir) fun answer answer' alike => ?_
  cases alike with
  | refused cause => exact .pure ⟨same, rfl⟩
  | listed reordered =>
    dsimp only
    rw [← reordered.leastIntermediate_eq]
    split
    · exact .pure ⟨same, rfl⟩
    · refine launch_paired (same_iff.mpr ?_) _ _
      exact ⟨handle, source, rfl, state, running, rfl, skipped, stages⟩

theorem finish_paired (config : Config) (same : Same job job') :
    Paired steady SameMoved (job.finish config) (job'.finish config) := by
  have finished : ∀ {job job' : Job}, Same job job' → Paired steady SameMoved
      (job.advance .finished >>= fun moved => pure (moved, none))
      (job'.advance .finished >>= fun moved => pure (moved, none)) :=
    fun same => .bind (advance_paired same .finished) fun _ _ moved => .pure ⟨moved, rfl⟩
  obtain ⟨-, -, -, -, -, intermediate, -⟩ := same_iff.mp same
  rw [finish, finish, ← intermediate]
  split
  · exact finished same
  · split
    · exact finished same
    · refine .asking (.removeFile _) fun answer answer' alike => ?_
      cases alike
      cases answer with
      | error cause => exact .pure ⟨same.withIntermediate none, rfl⟩
      | ok done => exact finished (same.withIntermediate none)

theorem afterExit_paired (config : Config) (same : Same job job') (program : String)
    (exit : ToolExit) : Paired steady SameMoved (job.afterExit config program exit)
      (job'.afterExit config program exit) := by
  obtain ⟨-, source, -, state, -⟩ := same_iff.mp same
  rw [afterExit, afterExit, ← state, ← source]
  split
  · split
    · exact rasterize_paired config same
    · exact finish_paired config same
    · exact .pure ⟨same, rfl⟩
  · exact .pure ⟨same, rfl⟩

theorem step_paired (config : Config) (same : Same job job') :
    Paired steady SameMoved (job.step config) (job'.step config) := by
  obtain ⟨-, source, workDir, state, -, intermediate, -⟩ := same_iff.mp same
  rw [step, step, ← state, ← intermediate, ← workDir, ← source]
  split
  · split <;> exact launch_paired same _ _
  · rcases same.running with ⟨free, free'⟩ | ⟨tool, tool', held, held', process, program⟩
    · rw [free, free']
      exact .pure ⟨same, rfl⟩
    · rw [held, held']
      dsimp only
      rw [← process, ← program]
      refine .asking (.tryWait tool.process) fun answer answer' alike => ?_
      cases alike
      match answer with
      | .error cause => exact .pure ⟨same, rfl⟩
      | .ok none => exact .pure ⟨same, rfl⟩
      | .ok (some exit) =>
        refine .asking .clock fun time time' _ => ?_
        exact afterExit_paired config (same.release exit _ _) tool.program exit

theorem killTool_paired (same : Same job job') :
    Paired steady Same job.killTool job'.killTool := by
  obtain ⟨handle, -⟩ := same_iff.mp same
  rw [killTool, killTool]
  rcases same.running with ⟨free, free'⟩ | ⟨tool, tool', held, held', process, program⟩
  · rw [free, free']
    exact .pure same
  · rw [held, held']
    dsimp only
    rw [← process, ← program, ← handle]
    have dismissed : Paired steady Same
        (ask .clock >>= fun time => pure (job.dismiss (tool.elapsedMs time)))
        (ask .clock >>= fun time => pure (job'.dismiss (tool'.elapsedMs time))) :=
      .asking .clock fun _ _ _ => .pure (same.dismiss _ _)
    refine .asking (.kill tool.process) fun answer answer' alike => ?_
    cases alike
    cases answer with
    | error cause => exact .warning _ dismissed
    | ok done => exact dismissed

theorem removeWorkDir_paired (workDir : Path) :
    Paired steady Eq (removeWorkDir workDir) (removeWorkDir workDir) := by
  refine .asking (.pathExists workDir) fun there there' alike => ?_
  cases alike
  cases there with
  | false => exact .pure rfl
  | true =>
    refine .asking (.removeDirAll workDir) fun answer answer' alike => ?_
    cases alike
    cases answer with
    | error cause => exact .warning _ (.pure rfl)
    | ok done => exact .pure rfl

theorem abort_paired (same : Same job job') (last : JobState) :
    Paired steady Same (job.abort last) (job'.abort last) := by
  refine .bind (killTool_paired same) fun freed freed' same => ?_
  obtain ⟨-, -, workDir, -⟩ := same_iff.mp same
  rw [← workDir]
  exact .bind (removeWorkDir_paired _) fun _ _ _ => advance_paired same last

end Job

namespace Converter

/-- The same converter, but for the time. -/
def Same (c c' : Converter) : Prop := c.timeless = c'.timeless

/-- The same result, and the same converter but for the time. -/
def SameResult {α : Type} (p p' : α × Converter) : Prop := p.1 = p'.1 ∧ Same p.2 p'.2

variable {steady : Prop} {c c' : Converter}

theorem same_iff : Same c c' ↔ c.config = c'.config ∧ c.compiler = c'.compiler ∧
    c.nextId = c'.nextId ∧ c.job.map Job.timeless = c'.job.map Job.timeless := by
  simp [Same, timeless]

theorem Same.withJob (same : Same c c') {job job' : Job} (jobs : Job.Same job job') :
    Same { c with job := some job } { c' with job := some job' } := by
  obtain ⟨config, compiler, nextId, -⟩ := same_iff.mp same
  exact same_iff.mpr ⟨config, compiler, nextId, congrArg some jobs⟩

/-- Whether the job is chosen does not depend on the time. -/
theorem Same.filter (same : Same c c') {p : Job → Bool}
    (timeless : ∀ job job', Job.Same job job' → p job = p job') :
    c.job.filter p = none ∧ c'.job.filter p = none ∨ ∃ job job', c.job.filter p = some job ∧
      c'.job.filter p = some job' ∧ Job.Same job job' := by
  obtain ⟨-, -, -, jobs⟩ := same_iff.mp same
  cases current : c.job with
  | none => cases current' : c'.job with
    | none => exact .inl ⟨rfl, rfl⟩
    | some job' => simp [current, current'] at jobs
  | some job => cases current' : c'.job with
    | none => simp [current, current'] at jobs
    | some job' =>
      have alike : Job.Same job job' := by simpa [Job.Same, current, current'] using jobs
      have chosen := timeless job job' alike
      cases held : p job <;> simp_all [Option.filter]

theorem Same.find? (same : Same c c') (handle : JobHandle) :
    c.find? handle = none ∧ c'.find? handle = none ∨ ∃ job job', c.find? handle = some job ∧
      c'.find? handle = some job' ∧ Job.Same job job' := by
  refine same.filter fun job job' alike => ?_
  rw [(Job.same_iff.mp alike).1]

theorem Same.activeJob? (same : Same c c') :
    c.activeJob? = none ∧ c'.activeJob? = none ∨ ∃ job job', c.activeJob? = some job ∧
      c'.activeJob? = some job' ∧ Job.Same job job' := by
  refine same.filter fun job job' alike => ?_
  obtain ⟨-, -, -, state, -⟩ := Job.same_iff.mp alike
  rw [state]

theorem stageSource_paired (config : Config) (source workDir : Path) (preexisting : Bool) :
    Paired steady Eq (stageSource config source workDir preexisting)
      (stageSource config source workDir preexisting) := by
  rw [stageSource]
  split
  · split
    · exact .pure rfl
    · refine .asking (.copy _ _) fun answer answer' alike => ?_
      cases alike
      cases answer with
      | ok done => exact .pure rfl
      | error cause =>
        cases preexisting with
        | true => exact .pure rfl
        | false => exact .bind (Job.removeWorkDir_paired _) fun _ _ _ => .pure rfl
  · exact .pure rfl

theorem prepareWorkDir_paired (workDir : Path) :
    Paired steady Eq (prepareWorkDir workDir) (prepareWorkDir workDir) := by
  rw [prepareWorkDir]
  refine .asking (.pathExists workDir) fun there there' alike => ?_
  cases alike
  cases there with
  | false =>
    refine .asking (.createDirAll workDir) fun made made' alike => ?_
    cases alike
    cases made <;> exact .pure rfl
  | true =>
    refine .asking (.isEmptyDir workDir) fun empty empty' alike => ?_
    cases alike
    rcases empty with cause | (_ | _)
    · exact .pure rfl
    · exact .pure rfl
    · refine .asking (.checkWritable workDir) fun writable writable' alike => ?_
      cases alike
      cases writable with
      | error cause => exact .pure rfl
      | ok done =>
        refine .asking (.createDirAll workDir) fun made made' alike => ?_
        cases alike
        cases made <;> exact .pure rfl

theorem prepare_paired (config : Config) (source workDir : Path) :
    Paired steady Eq (prepare config source workDir) (prepare config source workDir) := by
  rw [prepare]
  split
  · exact .pure rfl
  · refine .asking (.checkReadable source) fun readable readable' alike => ?_
    cases alike
    cases readable with
    | error cause => exact .pure rfl
    | ok done =>
      refine .bind (prepareWorkDir_paired workDir) fun housed housed' alike => ?_
      cases alike
      cases housed with
      | error error => exact .pure rfl
      | ok preexisting => exact stageSource_paired _ _ _ _

theorem start_paired (same : Same c c') (source workDir : Path) :
    Paired steady SameResult (c.start source workDir) (c'.start source workDir) := by
  obtain ⟨config, compiler, nextId, -⟩ := same_iff.mp same
  rw [start, start, ← config]
  rcases same.activeJob? with ⟨idle, idle'⟩ | ⟨job, job', active, active', alike⟩
  · rw [idle, idle']
    refine .bind (prepare_paired _ _ _) fun prepared prepared' alike => ?_
    cases alike
    cases prepared with
    | error error => exact .pure ⟨rfl, same⟩
    | ok staged =>
      exact .pure ⟨by simp [nextId], same_iff.mpr ⟨config, compiler, by simp [nextId],
        by simp [nextId]⟩⟩
  · obtain ⟨handle, -, -, state, -⟩ := Job.same_iff.mp alike
    rw [active, active']
    exact .pure ⟨by rw [handle, state], same⟩

theorem poll_paired (same : Same c c') (handle : JobHandle) :
    Paired steady SameResult (c.poll handle) (c'.poll handle) := by
  rw [poll, poll]
  rcases same.find? handle with ⟨absent, absent'⟩ | ⟨job, job', known, known', alike⟩
  · rw [absent, absent']
    exact .pure ⟨rfl, same⟩
  · rw [known, known']
    obtain ⟨-, -, -, state, -⟩ := Job.same_iff.mp alike
    dsimp only
    rw [← state]
    split
    · exact .pure ⟨rfl, same⟩
    · have stepped : Paired steady Job.SameMoved (job.step c.config) (job'.step c'.config) := by
        rw [(same_iff.mp same).1]
        exact Job.step_paired _ alike
      refine .bind stepped ?_
      rintro ⟨moved, fault⟩ ⟨moved', fault'⟩ ⟨alike, faults⟩
      dsimp only at alike faults ⊢
      obtain ⟨handle, -, -, state, -⟩ := Job.same_iff.mp alike
      rw [← faults, ← handle]
      cases fault with
      | none => exact .pure ⟨by rw [state], same.withJob alike⟩
      | some fault =>
        refine .warning _ (.bind (Job.abort_paired alike _) fun last last' alike => ?_)
        obtain ⟨-, -, -, state, -⟩ := Job.same_iff.mp alike
        exact .pure ⟨by rw [state], same.withJob alike⟩

theorem cancel_paired (same : Same c c') (handle : JobHandle) :
    Paired steady SameResult (c.cancel handle) (c'.cancel handle) := by
  rw [cancel, cancel]
  rcases same.find? handle with ⟨absent, absent'⟩ | ⟨job, job', known, known', alike⟩
  · rw [absent, absent']
    exact .pure ⟨rfl, same⟩
  · rw [known, known']
    obtain ⟨-, -, -, state, -⟩ := Job.same_iff.mp alike
    dsimp only
    rw [← state]
    split
    · exact .pure ⟨rfl, same⟩
    · refine .bind (Job.abort_paired alike _) fun last last' alike => ?_
      exact .pure ⟨rfl, same.withJob alike⟩

theorem collectSlides_paired (same : Same c c') (handle : JobHandle) :
    Paired steady Eq (c.collectSlides handle) (c'.collectSlides handle) := by
  obtain ⟨config, compiler, -, -⟩ := same_iff.mp same
  rw [collectSlides, collectSlides, patternRefusal?, patternRefusal?, ← config, ← compiler]
  rcases same.find? handle with ⟨absent, absent'⟩ | ⟨job, job', known, known', alike⟩
  · rw [absent, absent']
    exact .pure rfl
  · rw [known, known']
    obtain ⟨named, -, workDir, state, -⟩ := Job.same_iff.mp alike
    dsimp only
    rw [← state, ← workDir, ← named]
    split
    · split
      · exact .pure rfl
      · refine .asking (.listDir job.workDir) fun answer answer' alike => ?_
        cases alike with
        | refused cause => exact .pure rfl
        | listed reordered =>
          exact .pure (congrArg _ (SlideCollection.ofEntries_eq_of_reordered reordered _))
    · exact .pure rfl

theorem close_paired (same : Same c c') : Paired steady Same c.close c'.close := by
  rw [close, close]
  rcases same.activeJob? with ⟨idle, idle'⟩ | ⟨job, job', active, active', alike⟩
  · rw [idle, idle']
    exact .pure same
  · obtain ⟨handle, -, -, state, -⟩ := Job.same_iff.mp alike
    rw [active, active']
    dsimp only
    rw [← handle, ← state]
    refine .warning _ (.bind (Job.abort_paired alike _) fun last last' alike => ?_)
    exact .pure (same.withJob alike)

theorem Same.state (same : Same c c') (handle : JobHandle) : c.state handle = c'.state handle := by
  rw [Converter.state, Converter.state, inspect, inspect]
  rcases same.find? handle with ⟨absent, absent'⟩ | ⟨job, job', known, known', alike⟩
  · rw [absent, absent']
  · obtain ⟨-, -, -, state, -⟩ := Job.same_iff.mp alike
    rw [known, known']
    exact congrArg Except.ok state

theorem Same.workDir (same : Same c c') (handle : JobHandle) :
    c.workDir handle = c'.workDir handle := by
  rw [Converter.workDir, Converter.workDir, inspect, inspect]
  rcases same.find? handle with ⟨absent, absent'⟩ | ⟨job, job', known, known', alike⟩
  · rw [absent, absent']
  · obtain ⟨-, -, workDir, -⟩ := Job.same_iff.mp alike
    rw [known, known']
    exact congrArg Except.ok workDir

theorem Same.report (same : Same c c') (handle : JobHandle) :
    (c.report handle).map JobReport.timeless = (c'.report handle).map JobReport.timeless := by
  rw [Converter.report, Converter.report, inspect, inspect]
  rcases same.find? handle with ⟨absent, absent'⟩ | ⟨job, job', known, known', alike⟩
  · rw [absent, absent']
  · obtain ⟨named, source, workDir, state, -, -, skipped, stages⟩ := Job.same_iff.mp alike
    rw [known, known']
    simp [Except.map, Job.report, JobReport.timeless, named, source, workDir, state, skipped,
      stages]

/-- A run goes on in the same way if its deadline, should there be one, is looked at with the same
clock. -/
theorem runTicks_paired (same : Same c c') (handle : JobHandle) (interval : Duration)
    {deadline : Option Duration} (timed : deadline.isSome = true → steady)
    {started started' : Duration} (began : steady → started = started') (ticks : Nat) :
    Paired steady SameResult (runTicks handle interval deadline started ticks c)
      (runTicks handle interval deadline started' ticks c') := by
  induction ticks generalizing c c' with
  | zero => exact .pure ⟨rfl, same⟩
  | succ ticks ih =>
    refine .bind (poll_paired same handle) ?_
    rintro ⟨result, between⟩ ⟨result', between'⟩ ⟨results, same⟩
    dsimp only at results same ⊢
    rw [← results]
    cases result with
    | error error => exact .pure ⟨rfl, same⟩
    | ok result =>
      dsimp only
      split
      · exact .pure ⟨rfl, same⟩
      · refine .asking .clock fun now now' alike => ?_
        have passed : reached deadline (now.nanoseconds - started.nanoseconds) =
            reached deadline (now'.nanoseconds - started'.nanoseconds) := by
          cases deadline with
          | none => rfl
          | some limit => rw [alike (timed rfl), began (timed rfl)]
        rw [← passed]
        split
        · refine .warning _ (.bind (cancel_paired same handle) ?_)
          rintro ⟨cancelled, last⟩ ⟨cancelled', last'⟩ ⟨cancels, same⟩
          dsimp only at cancels same ⊢
          rw [← cancels]
          cases cancelled with
          | error error => exact .pure ⟨rfl, same⟩
          | ok done => exact .pure ⟨by rw [same.state handle], same⟩
        · exact .asking (.sleep interval) fun _ _ _ => ih same

theorem runToCompletion_paired (same : Same c c') (handle : JobHandle) (interval : Duration)
    {deadline : Option Duration} (timed : deadline.isSome = true → steady) (maxTicks : Nat) :
    Paired steady SameResult (c.runToCompletion handle interval deadline maxTicks)
      (c'.runToCompletion handle interval deadline maxTicks) :=
  .asking .clock fun _ _ began => runTicks_paired same handle interval timed began maxTicks

/-- The same response but for the time, and the same converter but for the time. -/
def SameResponse (p p' : Response × Converter) : Prop :=
  p.1.timeless = p'.1.timeless ∧ Same p.2 p'.2

theorem respond_paired (same : Same c c') (call : Call) (timed : call.isTimed = true → steady) :
    Paired steady SameResponse (c.respond call) (c'.respond call) := by
  cases call with
  | start source workDir =>
    refine .bind (start_paired same source workDir) fun p p' alike => ?_
    exact .pure ⟨by rw [alike.1], alike.2⟩
  | poll handle =>
    refine .bind (poll_paired same handle) fun p p' alike => ?_
    exact .pure ⟨by rw [alike.1], alike.2⟩
  | cancel handle =>
    refine .bind (cancel_paired same handle) fun p p' alike => ?_
    exact .pure ⟨by rw [alike.1], alike.2⟩
  | collectSlides handle =>
    refine .bind (collectSlides_paired same handle) fun result result' alike => ?_
    exact .pure ⟨by rw [alike], same⟩
  | state handle => exact .pure ⟨by rw [same.state], same⟩
  | workDir handle => exact .pure ⟨by rw [same.workDir], same⟩
  | report handle => exact .pure ⟨congrArg Response.report (same.report handle), same⟩
  | run handle interval deadline maxTicks =>
    refine .bind (runToCompletion_paired same handle interval timed maxTicks) fun p p' alike => ?_
    exact .pure ⟨by rw [alike.1], alike.2⟩
  | close =>
    refine .bind (close_paired same) fun last last' alike => ?_
    exact .pure ⟨rfl, alike⟩

end Converter

/-! ## Histories -/

/-- The same call, with the same response and the same questions, but for the order of listings and
for the time. -/
structure SameExchange {σ τ : Type} (steady : Prop) (e : Exchange σ) (e' : Exchange τ) : Prop where
  call : e.call = e'.call
  response : e.response.timeless = e'.response.timeless
  events : List.Forall₂ (SameEvent steady) e.events e'.events
  after : e.after.timeless = e'.after.timeless

def ActEvent.question? : ActEvent → Option Question
  | .asked question _ => some question
  | .noted _ => none

/-- All that has been asked, in order: every launch with its invocation and every removal too. -/
def questions (events : List ActEvent) : List Question := events.filterMap ActEvent.question?

section

variable {σ τ : Type} {steady : Prop}

theorem questions_eq_of_same {events events' : List ActEvent}
    (same : List.Forall₂ (SameEvent steady) events events') :
    questions events = questions events' := by
  induction same with
  | nil => rfl
  | cons first _ ih =>
    cases first with
    | asked => exact congrArg (_ :: ·) ih
    | noted => exact ih

theorem flatMap_events_same {exchanges : List (Exchange σ)} {exchanges' : List (Exchange τ)}
    (same : List.Forall₂ (SameExchange steady) exchanges exchanges') :
    List.Forall₂ (SameEvent steady) (exchanges.flatMap (·.events))
      (exchanges'.flatMap (·.events)) := by
  induction same with
  | nil => exact .nil
  | cons first _ ih => exact List.rel_append first.events ih

theorem History.of_same {r : Surroundings σ} {r' : Surroundings τ}
    {related : σ → τ → Prop} (agree : Agree steady r r' related) (calls : List Call)
    (timed : ∀ call ∈ calls, call.isTimed = true → steady) {c c' : Converter} {s : σ} {s' : τ}
    (same : Converter.Same c c') (here : related s s') :
    List.Forall₂ (SameExchange steady) (History.of r calls c s).exchanges
        (History.of r' calls c' s').exchanges ∧
      Converter.Same (History.of r calls c s).converter (History.of r' calls c' s').converter := by
  induction calls generalizing c c' s s' with
  | nil => exact ⟨.nil, same⟩
  | cons call rest ih =>
    obtain ⟨timed_here, timed_later⟩ := List.forall_mem_cons.mp timed
    obtain ⟨⟨response, after⟩, states, events⟩ :=
      (Converter.respond_paired same call timed_here).perform agree here
    obtain ⟨later, last⟩ := ih timed_later after states
    exact ⟨.cons ⟨rfl, response, events, after⟩ later, last⟩

end

namespace Converter

/-- The order in which directories are listed makes no difference to any sequence of calls: all
responses, all questions and the job that is kept are the same, but for the times. The clocks have
to agree only where a run has a deadline. -/
theorem history_unaffected_by_listing_order {σ τ : Type} {steady : Prop} {r : Surroundings σ}
    {r' : Surroundings τ} {related : σ → τ → Prop} (agree : Agree steady r r' related)
    (config : Config) (compiler : PatternCompiler) (calls : List Call)
    (timed : ∀ call ∈ calls, call.isTimed = true → steady) {s : σ} {s' : τ}
    (here : related s s') :
    let h := History.of r calls { config, compiler } s
    let h' := History.of r' calls { config, compiler } s'
    List.Forall₂ (SameExchange steady) h.exchanges h'.exchanges ∧
      questions h.events = questions h'.events ∧
      h.converter.timeless = h'.converter.timeless := by
  intro h h'
  obtain ⟨exchanges, last⟩ := History.of_same agree calls timed (c := { config, compiler }) rfl here
  exact ⟨exchanges, questions_eq_of_same (flatMap_events_same exchanges), last⟩

end Converter

/-! ## Surroundings with a listing of their own -/

/-- Names in another order make a listing in another order. -/
theorem reordered_join (dir : Path) {names names' : List Bytes} (perm : names.Perm names')
    (proper : ∀ name ∈ names, Path.IsName name) (distinct : names.Nodup) :
    Reordered dir (names.map (dir.join ⟨·⟩)) (names'.map (dir.join ⟨·⟩)) where
  perm := perm.map _
  children := by
    intro p listed
    obtain ⟨name, there, rfl⟩ := List.mem_map.mp listed
    exact ⟨name, Path.components_join dir (proper name there)⟩
  distinct := by
    rw [List.map_map]
    refine List.Nodup.map_on (fun a ha b hb same => ?_) distinct
    simp only [Function.comp, Path.components_join dir (proper a ha),
      Path.components_join dir (proper b hb)] at same
    simpa using same

theorem agree_obliging {names names' : List Bytes} (perm : names.Perm names')
    (proper : ∀ name ∈ names, Path.IsName name) (distinct : names.Nodup) (time time' : Duration) :
    Agree False (obliging names time) (obliging names' time') (fun _ _ => True) where
  answers := by
    intro q s s' _
    cases q with
    | listDir dir => exact .listed (reordered_join dir perm proper distinct)
    | clock => exact False.elim
    | _ => exact rfl
  states := fun _ _ _ _ => trivial

namespace Converter

/-- Two page-description files and two slides, listed in one order and in the other, for a document
that is accepted, polled three times and asked for its slides. -/
theorem rehearsed_history_with_reversed_listing :
    let names := ["talk.pdf", "slide-10.jpg", "notes.pdf", "slide-9.jpg"].map Utf8.encode
    let calls := [.start (.ofString "talk.odp") (.ofString "work"), .poll ⟨1⟩, .poll ⟨1⟩,
      .poll ⟨1⟩, .collectSlides ⟨1⟩, .report ⟨1⟩]
    let r := obliging names ⟨0⟩
    let r' := obliging names.reverse ⟨5000000⟩
    names ≠ names.reverse ∧ Agree False r r' (fun _ _ => True) ∧
      (∀ call ∈ calls, call.isTimed = true → False) ∧
      let h := History.of r calls { config := {} } ()
      let h' := History.of r' calls { config := {} } ()
      (h.exchanges.head?.map (·.response.registers)) = some true ∧
        List.Forall₂ (SameExchange False) h.exchanges h'.exchanges ∧
        questions h.events = questions h'.events ∧
        h.converter.timeless = h'.converter.timeless := by
  intro names calls r r'
  have proper : ∀ name ∈ names, Path.slash ∉ name ∧
      Path.innerComponent name = some (.name name) := by decide +kernel
  have distinct : names.Nodup := by decide +kernel
  have agree : Agree False r r' (fun _ _ => True) :=
    agree_obliging names.reverse_perm.symm proper distinct ⟨0⟩ ⟨5000000⟩
  have untimed : ∀ call ∈ calls, call.isTimed = true → False := by decide +kernel
  exact ⟨by decide +kernel, agree, untimed, by decide +kernel,
    history_unaffected_by_listing_order agree {} .standard calls untimed trivial⟩

end Converter

end SlideConverter

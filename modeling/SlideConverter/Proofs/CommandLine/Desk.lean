import SlideConverter.Proofs.CommandLine.Session
import SlideConverter.Proofs.Conversion.Conduct

/-!
# Sessions at a desk

A desk answers what is asked of the disk by its own file tree, to which nobody else writes; there
may be files on it that cannot be opened. What a part of a session comes to there, and the tree that
it leaves behind, follow from the tree that it has found, as long as no tools are started. `Leads`
says so of a part, and goes through the parts one by one. All that comes before a job is looked at
is such a part: `Acceptance` says where it leads.
-/

namespace SlideConverter

/-! ## Files that cannot be opened -/

namespace FileTree

/-- What is seen of an input if `closed` says why some files cannot be opened. -/
def checkOpen (closed : Path → Option ErrorChain) (t : FileTree) (path : Path) : Reply Unit :=
  match t.checkReadable path, closed path with
  | .ok _, some cause => .error cause
  | checked, _ => checked

/-- A tree by itself, with files that cannot be opened. -/
def guarded (closed : Path → Option ErrorChain) : Surroundings FileTree where
  answer
    | .checkReadable path, t => (t.checkOpen closed path, t)
    | question, t => t.answer question

theorem checkOpen_of_open {closed : Path → Option ErrorChain} {path : Path}
    (free : closed path = none) (t : FileTree) :
    t.checkOpen closed path = t.checkReadable path := by
  rw [checkOpen, free]
  cases t.checkReadable path <;> rfl

theorem checkOpen_eq_ok {closed : Path → Option ErrorChain} {t : FileTree} {path : Path} :
    t.checkOpen closed path = .ok () ↔ t.checkReadable path = .ok () ∧ closed path = none := by
  rw [checkOpen]
  cases t.checkReadable path <;> cases closed path <;> simp

end FileTree

/-! ## What is asked by a start -/

namespace Converter

variable {c c' : Converter} {config : Config} {source workDir : Path} {events : List ActEvent}
  {closed : Path → Option ErrorChain} {t : FileTree}

/-- Nothing is asked but of the disk, and no file but `source` is to be read. -/
@[simp] def asksDisk (source : Path) : ActEvent → Bool
  | .asked (.checkReadable path) _ => path = source
  | .asked question _ => question.ofDisk
  | .noted _ => true

theorem ofDisk_of_asksDisk {question : Question} {answer : question.Answer}
    (asks : asksDisk source (.asked question answer) = true) : question.ofDisk = true := by
  cases question <;> first | rfl | exact asks

theorem Preparation.asks_disk {result : Except ConversionError (Option Path)}
    (prepared : Preparation config source workDir events result) :
    ∀ e ∈ events, asksDisk source e = true := by
  have housing : ∀ {events : List ActEvent} {result : Except ConversionError Bool},
      Housing workDir events result → ∀ e ∈ events, asksDisk source e = true := by
    intro events result housing
    cases housing with
    | unlistable | occupied | unwritable => simp [Question.ofDisk]
    | unmade preexisting | made preexisting =>
      cases preexisting <;> simp [inspection, Question.ofDisk]
  cases prepared with
  | unsupported => simp
  | unreadable => simp [Question.ofDisk]
  | unhoused _ house => exact List.forall_mem_cons.mpr ⟨by simp, housing house⟩
  | housed _ _ house stage =>
    refine List.forall_mem_cons.mpr ⟨by simp, List.forall_mem_append.mpr ⟨housing house, ?_⟩⟩
    cases stage with
    | plain => simp
    | copied | left => simp [Question.ofDisk]
    | undone _ _ _ _ _ cleanup => cases cleanup <;> simp [Question.ofDisk]

theorem start_asks_disk {result : Except ConversionError JobHandle}
    (course : (c.start source workDir).Course events (result, c')) :
    ∀ e ∈ events, asksDisk source e = true := by
  cases start_conduct course with
  | busy => simp
  | rejected _ _ _ prepared | registered _ _ _ prepared => exact prepared.asks_disk
  | worked other => cases other

theorem answers_guarded (free : closed source = none) {last : FileTree}
    (asks : ∀ e ∈ events, asksDisk source e = true)
    (answers : FileTree.surroundings.Answers t events last) :
    (FileTree.guarded closed).Answers t events last := by
  induction events generalizing t with
  | nil => exact answers
  | cons e rest ih =>
    obtain ⟨asked, later⟩ := List.forall_mem_cons.mp asks
    cases e with
    | noted w => exact ih later answers
    | asked question answer =>
      obtain ⟨answered, onward⟩ := answers
      have same : (FileTree.guarded closed).answer question t = FileTree.answer question t := by
        cases question with
        | checkReadable path =>
          obtain rfl : path = source := by simpa using asked
          exact congrArg (·, t) (t.checkOpen_of_open free)
        | _ => rfl
      rw [Respondent.Answers, same]
      exact ⟨answered, ih later onward⟩

/-- A source that can be opened is all that a start wants to read. -/
theorem start_guarded (free : closed source = none) (c : Converter) (workDir : Path)
    (t : FileTree) : (c.start source workDir).perform (FileTree.guarded closed) t =
      (c.start source workDir).perform FileTree.surroundings t := by
  have course := (c.start source workDir).perform_course FileTree.surroundings t
  have answers := Respondent.answers_perform FileTree.surroundings (c.start source workDir) t
  exact Respondent.perform_of_answers course
    (answers_guarded free (start_asks_disk course) answers)

/-- A start comes to what its preparation comes to, and leaves the same behind. -/
theorem start_prepared {σ : Type} (r : Surroundings σ) (c : Converter) (source workDir : Path)
    (s : σ) (idle : c.activeJob? = none) :
    let p := (c.start source workDir).perform r s
    ∃ events result, Preparation c.config source workDir events result ∧
      r.Answers s events p.state ∧ p.value.1 = result.map fun _ => ⟨c.nextId⟩ := by
  intro p
  have conduct := start_conduct ((c.start source workDir).perform_course r s)
  have answers : r.Answers s p.events p.state := Respondent.answers_perform r _ s
  change Conduct c (.start source workDir) p.events (.started p.value.1) p.value.2 at conduct
  generalize p.events = events, p.value.1 = result, p.value.2 = after at *
  cases conduct with
  | busy _ _ active =>
    rw [idle] at active
    cases active
  | rejected _ _ _ prepared => exact ⟨_, _, prepared, answers, rfl⟩
  | registered _ _ _ prepared => exact ⟨_, _, prepared, answers, rfl⟩
  | worked other => cases other

end Converter

namespace CommandLine

open Session Text

/-- What changes no file, without being asked for a conversion. -/
def Inquiry.looks : Inquiry → Bool
  | .readFile _ | .isFile _ | .canonicalize _ | .wallClock => true
  | .conversion _ | .createFile _ | .probe _ _ => false

variable {σ : Type}

/-- The disk is the tree that `tree` shows, with files that cannot be opened for the reasons that
`closed` says, and only what is asked changes it. -/
structure Desk (r : Respondent Inquiry Inquiry.Answer σ) (tree : σ → FileTree)
    (closed : Path → Option ErrorChain) : Prop where
  disk : ∀ question s, question.ofDisk = true →
    ((r.answer (.conversion question) s).1, tree (r.answer (.conversion question) s).2) =
      (FileTree.guarded closed).answer question (tree s)
  creates : ∀ path s,
    ((r.answer (.createFile path) s).1, tree (r.answer (.createFile path) s).2) =
      FileTree.attempting ("create log file: " ++ path.display)
        ((tree s).outcome ((tree s).createFile path))
  looks : ∀ inquiry s, inquiry.looks = true → tree (r.answer inquiry s).2 = tree s

/-- The same place, but some of its files cannot be opened. -/
def guarding (closed : Path → Option ErrorChain) (r : Respondent Inquiry Inquiry.Answer σ)
    (tree : σ → FileTree) : Respondent Inquiry Inquiry.Answer σ where
  answer
    | .conversion (.checkReadable path), s => ((tree s).checkOpen closed path, s)
    | inquiry, s => r.answer inquiry s

theorem Desk.guarding {closed closed' : Path → Option ErrorChain}
    {r : Respondent Inquiry Inquiry.Answer σ} {tree : σ → FileTree} (desk : Desk r tree closed) :
    Desk (CommandLine.guarding closed' r tree) tree closed' where
  disk question s ofDisk := by
    cases question with
    | checkReadable path => rfl
    | _ => exact desk.disk _ s ofDisk
  creates := desk.creates
  looks inquiry s looks := by
    cases inquiry with
    | conversion question => cases looks
    | _ => exact desk.looks _ s looks

/-- A machine is a desk as long as its programs are not asked for. -/
theorem desk_machine : Desk Machine.respondent Machine.tree fun _ => none where
  disk question m ofDisk := by
    cases question with
    | checkReadable path => exact congrArg (·, m.tree) (FileTree.checkOpen_of_open rfl m.tree).symm
    | _ => first | rfl | cases ofDisk
  creates path m := rfl
  looks inquiry m looks := by
    cases inquiry <;> first | rfl | cases looks

/-- From any state with the tree `t`, the session comes to a value and a tree that have `P`. -/
def Leads {α : Type} (r : Respondent Inquiry Inquiry.Answer σ) (tree : σ → FileTree) (t : FileTree)
    (d : Session α) (P : α → FileTree → Prop) : Prop :=
  ∀ s, tree s = t → P (d.perform r s).value (tree (d.perform r s).state)

variable {α β : Type} {r : Respondent Inquiry Inquiry.Answer σ} {tree : σ → FileTree}
  {closed : Path → Option ErrorChain} {t : FileTree} {P : α → FileTree → Prop}
  {Q : β → FileTree → Prop}

theorem Leads.pure {a : α} (holds : P a t) : Leads r tree t (Pure.pure a) P := by
  rintro s rfl
  exact holds

theorem Leads.mono {P' : α → FileTree → Prop} {d : Session α} (leads : Leads r tree t d P)
    (weaker : ∀ a t', P a t' → P' a t') : Leads r tree t d P' :=
  fun s same => weaker _ _ (leads s same)

theorem Leads.bind {d : Session α} {k : α → Session β} (first : Leads r tree t d P)
    (rest : ∀ a t', P a t' → Leads r tree t' (k a) Q) : Leads r tree t (d >>= k) Q := by
  intro s same
  rw [Dialogue.perform_bind]
  exact rest _ _ (first s same) _ rfl

/-- Whatever is seen, the tree is as it was. -/
theorem Leads.looking {inquiry : Inquiry} {k : inquiry.Answer → Session β}
    (desk : Desk r tree closed) (looks : inquiry.looks = true)
    (rest : ∀ answer, Leads r tree t (k answer) Q) :
    Leads r tree t (inquire inquiry >>= k) Q := by
  rintro s rfl
  exact rest _ _ (desk.looks inquiry s looks)

/-- The tree answers, and goes on as its answer leaves it. -/
theorem Leads.asking {question : Question} {k : question.Answer → Session β}
    (desk : Desk r tree closed) (ofDisk : question.ofDisk = true)
    (rest : Leads r tree ((FileTree.guarded closed).answer question t).2
      (k ((FileTree.guarded closed).answer question t).1) Q) :
    Leads r tree t (inquire (.conversion question) >>= k) Q := by
  rintro s rfl
  have answered := desk.disk question s ofDisk
  rw [← answered] at rest
  exact rest _ rfl

theorem Leads.noting {u : Utterance} {k : Session β} (rest : Leads r tree t k Q) :
    Leads r tree t ((.remark u : Session Unit) >>= fun _ => k) Q :=
  fun s same => rest s same

/-! ## Conversions -/

/-- A part of a conversion that asks for nothing but the disk goes as on the tree alone. -/
theorem leads_during (desk : Desk r tree closed) (filter : LogFilter) (act : Act α)
    (onDisk : ∀ events value, act.Course events value → ∀ question answer,
      .asked question answer ∈ events → question.ofDisk = true) :
    Leads r tree t (during filter act) fun value t' =>
      value = (act.perform (FileTree.guarded closed) t).value ∧
        t' = (act.perform (FileTree.guarded closed) t).state := by
  rintro s rfl
  rw [during]
  induction act generalizing s with
  | done value => exact ⟨rfl, rfl⟩
  | ask question next ih =>
    have ofDisk : question.ofDisk = true :=
      have later := (next ((FileTree.guarded closed).answer question (tree s)).1).perform_course
        (FileTree.guarded closed) (tree s)
      onDisk _ _ ⟨_, _, rfl, later⟩ _ _ List.mem_cons_self
    have later := ih (r.answer (.conversion question) s).1
      (fun events value course question answer there =>
        onDisk _ _ ⟨_, _, rfl, course⟩ question answer (List.mem_cons_of_mem _ there))
      (r.answer (.conversion question) s).2
    have answered := desk.disk question s ofDisk
    have same : (r.answer (.conversion question) s).1 =
        ((FileTree.guarded closed).answer question (tree s)).1 := congrArg Prod.fst answered
    have left : tree (r.answer (.conversion question) s).2 =
        ((FileTree.guarded closed).answer question (tree s)).2 := congrArg Prod.snd answered
    rw [left, same] at later
    simp only [Dialogue.embed, Dialogue.perform, same]
    exact later
  | note entry next ih =>
    have later := ih (fun events value course question answer there =>
      onDisk _ _ ⟨_, rfl, course⟩ question answer (List.mem_cons_of_mem _ there)) s
    rw [Dialogue.embed]
    cases record? filter (warningRecord entry) with
    | none => exact later
    | some u => exact later

/-! ## The parts of a session -/

/-- What is wrong with the input is seen before anything is made. -/
def TurnedAway (config : Config) (t : FileTree) (input : Path) : Prop :=
  config.security.rejectUrlInputs = true ∧ looksLikeUrl input.display = true ∨
    t.pathExists input = false

instance (config : Config) (t : FileTree) (input : Path) : Decidable (TurnedAway config t input) :=
  inferInstanceAs (Decidable (_ ∧ _ ∨ _))

/-- Where the directories of jobs are, unless the caller names one. -/
def jobsRoot (config : Config) : Path := .ofString config.paths.workDir

/-- The tree that a start finds. -/
def sited (config : Config) (t : FileTree) (named : Option Path) : FileTree :=
  if named.isSome then t else (t.makeDirectoryAll (jobsRoot config)).2

/-- The directory that the caller has named, or a name of its own for this job. -/
def Chosen (config : Config) : Option Path → Path → Prop
  | some path, workDir => workDir = path
  | none, workDir => ∃ source now,
    workDir = (jobsRoot config).join (.ofString (jobDirectoryName (fingerprint config) source now))

variable {setting : Setting} {config : Config} {filter : LogFilter} {input : Path}
  {named : Option Path}

theorem leads_loadConfig (desk : Desk r tree closed) (named : Option Path) :
    Leads r tree t (loadConfig named) fun _ t' => t' = t := by
  have found : Leads r tree t (configPath named) fun _ t' => t' = t := by
    cases named with
    | some path => exact .pure rfl
    | none =>
      refine .asking desk rfl ?_
      change Leads r tree t (if t.pathExists defaultConfigPath then _ else _) _
      split <;> exact .pure rfl
  refine .bind found ?_
  rintro path _ rfl
  cases path with
  | none => exact .pure rfl
  | some path => exact .looking desk rfl fun _ => .pure rfl

theorem leads_checkInput (desk : Desk r tree closed) :
    Leads r tree t (checkInput config input) fun result t' => t' = t ∧
      ((∃ why, result = .error why) ↔ TurnedAway config t input) := by
  rw [checkInput]
  split
  · rename_i url
    exact .pure ⟨rfl, iff_of_true ⟨_, rfl⟩ (.inl (by simpa using url))⟩
  · rename_i plain
    refine .asking desk rfl ?_
    change Leads r tree t (if t.pathExists input then _ else _) _
    split
    · rename_i there
      refine .pure ⟨rfl, iff_of_false (by simp) ?_⟩
      simp_all [TurnedAway]
    · rename_i absent
      exact .pure ⟨rfl, iff_of_true ⟨_, rfl⟩ (.inr (by simpa using absent))⟩

theorem leads_chooseWorkDir (desk : Desk r tree closed) :
    Leads r tree t (chooseWorkDir config input named) fun result t' =>
      t' = sited config t named ∧ (∀ why, result = .error why → named = none) ∧
        ∀ workDir, result = .ok workDir → Chosen config named workDir := by
  cases named with
  | some path => exact .pure ⟨rfl, nofun, fun _ same => (Except.ok.inj same).symm⟩
  | none =>
    refine .asking desk rfl ?_
    cases ((FileTree.guarded closed).answer
      (.createDirAll (Path.ofString config.paths.workDir)) t).1 with
    | error cause => exact .pure ⟨rfl, fun _ _ => rfl, nofun⟩
    | ok done =>
      refine .looking desk rfl fun found => ?_
      cases found with
      | error cause => exact .pure ⟨rfl, fun _ _ => rfl, nofun⟩
      | ok source =>
        refine .looking desk rfl fun now => .pure ⟨rfl, nofun, fun _ same => ?_⟩
        exact ⟨source, now, (Except.ok.inj same).symm⟩

/-- A start of a job on the tree that it finds. -/
def starting (setting : Setting) (config : Config) (closed : Path → Option ErrorChain)
    (input : Path) (named : Option Path) (t : FileTree) (workDir : Path) :=
  ((setting.converter config).start input workDir).perform (FileTree.guarded closed)
    (sited config t named)

/-- Where all that comes before a job is looked at leads from the tree `t`. -/
inductive Acceptance (setting : Setting) (config : Config) (closed : Path → Option ErrorChain)
    (input : Path) (named : Option Path) (t : FileTree) : Except Failing Accepted → FileTree → Prop
  | turnedAway (why : Failing) (away : TurnedAway config t input) :
    Acceptance setting config closed input named t (.error why) t
  | unhoused (why : Failing) (fit : ¬ TurnedAway config t input) (unnamed : named = none) :
    Acceptance setting config closed input named t (.error why) (sited config t named)
  | refused {workDir : Path} {error : ConversionError} (fit : ¬ TurnedAway config t input)
      (chosen : Chosen config named workDir)
      (refused : (starting setting config closed input named t workDir).value.1 = .error error) :
    Acceptance setting config closed input named t (.error (.conversion error))
      (starting setting config closed input named t workDir).state
  | accepted {a : Accepted} (fit : ¬ TurnedAway config t input)
      (chosen : Chosen config named a.workDir)
      (started : (starting setting config closed input named t a.workDir).value =
        (.ok a.handle, a.converter)) :
    Acceptance setting config closed input named t (.ok a)
      (starting setting config closed input named t a.workDir).state

theorem leads_accept (desk : Desk r tree closed) :
    Leads r tree t (accept setting config filter input named)
      (Acceptance setting config closed input named t) := by
  refine .bind (leads_checkInput desk) ?_
  rintro (why | done) t ⟨rfl, away⟩
  · exact .pure (.turnedAway why (away.mp ⟨why, rfl⟩))
  · have fit : ¬ TurnedAway config t input := by simp [← away]
    refine .bind (leads_chooseWorkDir desk) ?_
    rintro (why | workDir) _ ⟨rfl, unnamed, chosen⟩
    · exact .pure (.unhoused why fit (unnamed why rfl))
    · refine .looking desk rfl fun started => .bind (leads_during desk filter _ ?_) ?_
      · rintro events ⟨result, c⟩ course question answer there
        exact Converter.ofDisk_of_asksDisk (Converter.start_asks_disk course _ there)
      · rintro ⟨result, c⟩ _ ⟨value, rfl⟩
        have value : (starting setting config closed input named t workDir).value = (result, c) :=
          value.symm
        cases result with
        | error error =>
          exact .pure (.refused fit (chosen workDir rfl) (congrArg Prod.fst value))
        | ok handle =>
          let a : Accepted := ⟨workDir, started, handle, c⟩
          exact .pure (.accepted (a := a) fit (chosen workDir rfl) value)

theorem leads_log (filter : LogFilter) (record : LogRecord) :
    Leads r tree t (log filter record) fun _ t' => t' = t := by
  rw [log]
  cases record? filter record with
  | none => exact .pure rfl
  | some u => exact .noting (.pure rfl)

theorem leads_conclude (filter : LogFilter) (outcome : Except Failing Unit) :
    Leads r tree t (conclude filter outcome) fun _ t' => t' = t := by
  cases outcome with
  | ok done => exact .pure rfl
  | error e =>
    have logged : Leads r tree t (logFailure filter e) fun _ t' => t' = t := by
      rw [logFailure]
      cases e.message? with
      | some message => exact leads_log _ _
      | none => exact .pure rfl
    refine .bind logged ?_
    rintro - _ rfl
    exact .pure rfl

end CommandLine

end SlideConverter

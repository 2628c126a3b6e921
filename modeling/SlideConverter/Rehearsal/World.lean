import SlideConverter.Rehearsal.Disk

/-!
# Rehearsals

A conversion can be rehearsed without tools: each launch takes the next tool of a
script, which says what it answers while it is waited for and what it leaves behind
when it ends. Every clock reading is a microsecond later than the one before.
-/

namespace SlideConverter.Rehearsal

inductive WaitAnswer where
  | running
  | exit (code : Int32)
  | signal
  | error (cause : ErrorChain)

/-- A tool of the script. -/
structure Tool where
  pid : Option UInt32 := none
  launchError : Option ErrorChain := none
  /-- Answers in order; the last one is repeated. -/
  waits : List WaitAnswer := []
  /-- What is there from its first exit on. -/
  creates : List Entry := []
  killError : Option ErrorChain := none

/-- A tool that has been started; what it still has to create and to answer. -/
structure Started where
  waits : List WaitAnswer
  creates : List Entry
  killError : Option ErrorChain

structure World where
  disk : Disk := {}
  script : List Tool := []
  launches : Nat := 0
  started : List Started := []
  readings : Nat := 0

namespace World

def launch (w : World) (invocation : Invocation) : Reply ToolProcess × World :=
  let w := { w with launches := w.launches + 1 }
  match w.script with
  | [] => (.error ⟨["spawning " ++ invocation.program, "no script"]⟩, w)
  | tool :: rest =>
    let w := { w with script := rest }
    match tool.launchError with
    | some cause => (.error cause, w)
    | none =>
      let process : ToolProcess :=
        { serial := w.started.length, pid := tool.pid.getD (UInt32.ofNat (1000 + w.launches)) }
      let entry : Started :=
        { waits := tool.waits, creates := tool.creates, killError := tool.killError }
      (.ok process, { w with started := w.started ++ [entry] })

/-- The next answer, and the answers after it. -/
def nextWait : List WaitAnswer → WaitAnswer × List WaitAnswer
  | [] => (.running, [])
  | [last] => (last, [last])
  | answer :: rest => (answer, rest)

def tryWait (w : World) (process : ToolProcess) : Reply (Option ToolExit) × World :=
  match w.started[process.serial]? with
  | none => (.ok none, w)
  | some tool =>
    let (answer, waits) := nextWait tool.waits
    let ended (code : Option Int32) : Reply (Option ToolExit) × World :=
      (.ok (some { code }),
        { w with
          disk := w.disk.addAll tool.creates
          started := w.started.set process.serial { tool with waits, creates := [] } })
    let w := { w with started := w.started.set process.serial { tool with waits } }
    match answer with
    | .running => (.ok none, w)
    | .error cause => (.error cause, w)
    | .exit code => ended (some code)
    | .signal => ended none

def kill (w : World) (process : ToolProcess) : Reply Unit :=
  match w.started[process.serial]? with
  | some { killError := some cause, .. } => .error cause
  | _ => .ok ()

/-- An operation of the disk, with the world around it. -/
def onDisk {α : Type} (w : World) (operation : Operation) (answer : Reply α)
    (change : Disk → Disk) : Reply α × World :=
  let (answer, disk) := w.disk.attempt operation answer (change w.disk)
  (answer, { w with disk })

def answer (question : Question) (w : World) : question.Answer × World :=
  match question with
  | .pathExists path => ((w.disk.find? path).isSome, w)
  | .checkReadable path => w.onDisk .checkReadable (w.disk.checkReadable path) id
  | .isEmptyDir path =>
    w.onDisk .isEmptyDir
      (w.disk.directoryOnly path "read_dir" (!w.disk.entries.any (Disk.isBelow path))) id
  | .checkWritable _ => w.onDisk .checkWritable (.ok ()) id
  | .listDir path => w.onDisk .listDir (w.disk.listDir path) id
  | .createDirAll path =>
    w.onDisk .createDirAll (w.disk.createDirAll path) (·.add { path, isDir := true })
  | .copy source target =>
    w.onDisk .copy (w.disk.copy source target) (·.add { path := target, isDir := false })
  | .removeFile path =>
    w.onDisk .removeFile (w.disk.removeFile path) fun d =>
      { d with entries := d.entries.filter (·.path ≠ path) }
  | .removeDirAll path =>
    w.onDisk .removeDirAll
      (w.disk.directoryOnly path "remove_dir_all" ()) (·.remove path)
  | .launch invocation => w.launch invocation
  | .tryWait process => w.tryWait process
  | .kill process => (w.kill process, w)
  | .clock => (⟨w.readings * 1000⟩, { w with readings := w.readings + 1 })
  | .sleep _ => ((), w)

end World

def surroundings : Surroundings World where
  answer := World.answer

end SlideConverter.Rehearsal

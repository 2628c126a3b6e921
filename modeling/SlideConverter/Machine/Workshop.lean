import SlideConverter.Machine.Executable
import SlideConverter.Tool.Child

/-!
# Workshops

A workshop is where somebody starts programs and looks after them, by a clock that only
moves when somebody waits. A program does at once all that it can do without waiting
itself; what comes after a sleep is done when the clock has come so far. A program that
is ended while it sleeps does nothing more, but the signal for that can be refused.
Everything here is a routine, so a program can have a workshop of its own: a session of
the command line is one that has.
-/

namespace SlideConverter

open Text Routine

/-- A program at work, with how it goes on, from when and in which directory. -/
structure Work where
  child : Child
  since : Nat
  rest : Program
  place : Location
  /-- Why signals are refused to the program, if they are. -/
  signalRefusal : Option SystemError := none

structure Workshop where
  /-- Nanoseconds since the workshop was opened. -/
  now : Nat := 0
  work : List Work := []
  /-- Why signals are refused to the one who looks after the programs, if they are. -/
  signalRefusal : Option SystemError := none

/-- Goes on from `since` as far as the clock allows; nobody reads what is printed. -/
def Program.advance (now : Nat) :
    Nat → Option SystemError → Program → Routine (Nat × Option SystemError × Program)
  | since, refusal, .done status => return (since, refusal, .done status)
  | since, refusal, .note _ rest => advance now since refusal rest
  | since, refusal, .ask (.sleep time) next =>
    if since + time.nanoseconds ≤ now then
      advance now (since + time.nanoseconds) refusal (next ())
    else return (since, refusal, .ask (.sleep time) next)
  | since, refusal, .ask .signalRefusal next => advance now since refusal (next refusal)
  | since, _, .ask (.refuseSignals refusal) next => advance now since refusal (next ())
  | since, refusal, .ask request next =>
    .ask request fun answer => advance now since refusal (next answer)

/-- Everything up to the end, waited for; the time then, and what was printed. -/
def Program.finish :
    Nat → Nat → Option SystemError → Program → Routine (Nat × ExitStatus × List Print)
  | now, _, _, .done status => return (now, status, [])
  | now, since, refusal, .note p rest => do
    let (now, status, prints) ← finish now since refusal rest
    return (now, status, p :: prints)
  | now, since, refusal, .ask (.sleep time) next => do
    let woken := since + time.nanoseconds
    request (.sleep ⟨woken - now⟩)
    finish (max now woken) woken refusal (next ())
  | now, since, refusal, .ask .signalRefusal next => finish now since refusal (next refusal)
  | now, since, _, .ask (.refuseSignals refusal) next => finish now since refusal (next ())
  | now, since, refusal, .ask request next =>
    .ask request fun answer => finish now since refusal (next answer)

/-- Whatever `act` does, relative paths begin at `place` during it, and where they did before
after it. -/
def Routine.at {α : Type} (place : Location) (act : Routine α) : Routine α := do
  let here ← request .place
  request (.goTo place)
  let a ← act
  request (.goTo here)
  return a

def Work.advance (now : Nat) (w : Work) : Routine Work :=
  Routine.at w.place do
    let (since, signalRefusal, rest) ← Program.advance now w.since w.signalRefusal w.rest
    return { w with since, signalRefusal, rest, place := ← request .place }

namespace Workshop

/-- Programs go on in the order in which they were launched. -/
def catchUp (s : Workshop) : Routine Workshop := do
  let work ← s.work.mapM (Work.advance s.now)
  return { s with work }

def sleep (s : Workshop) (time : Duration) : Routine Workshop := do
  request (.sleep time)
  catchUp { s with now := s.now + time.nanoseconds }

/-! ## Programs -/

/-- What the native programs do, by their names. -/
abbrev Natives := String → List String → Program

/-- The native program that `program` turns out to be; finding it takes no time. -/
def find (natives : Natives) (program : String) (arguments : List String) :
    Routine (Except SystemError Program) := do
  match ← Executable.find program arguments with
  | .error cause => return .error cause
  | .ok (name, arguments) => return .ok (natives name arguments)

def firstPid : Nat := 4243

/-- Starts a program that reads nothing and whose prints nobody reads. -/
def launch (natives : Natives) (s : Workshop) (program : String) (arguments : List String) :
    Routine (Reply ToolProcess × Workshop) := do
  match ← find natives program arguments with
  | .error cause => return (.error ⟨["spawning " ++ program, cause.message]⟩, s)
  | .ok rest =>
    let process : ToolProcess :=
      { serial := s.work.length, pid := UInt32.ofNat (firstPid + s.work.length) }
    let work : Work :=
      { child := { program }, since := s.now, rest, place := ← request .place
        signalRefusal := s.signalRefusal }
    return (.ok process, ← catchUp { s with work := s.work ++ [work] })

/-- Runs a program to its end and keeps its output. -/
def probe (natives : Natives) (s : Workshop) (program : String) (arguments : List String) :
    Routine (Except SystemError Probe × Workshop) := do
  match ← find natives program arguments with
  | .error cause => return (.error cause, s)
  | .ok rest =>
    let (now, status, prints) ←
      Routine.at (← request .place) (Program.finish s.now s.now s.signalRefusal rest)
    let printed := (prints.filter (·.stream = .output)).flatMap (·.text)
    return (.ok { status, printed }, ← catchUp { s with now })

/-! ## Children -/

def setWork (s : Workshop) (serial : Nat) (w : Work) : Workshop :=
  { s with work := s.work.set serial w }

def statusOf : Program → Option ExitStatus
  | .done status => some status
  | _ => none

/-- A signal that ends a program, unless it has ended already. -/
def signal (s : Workshop) (serial : Nat) (w : Work) : Except SystemError Unit × Workshop :=
  match s.signalRefusal with
  | some cause => (.error cause, s)
  | none =>
    match statusOf w.rest with
    | some _ => (.ok (), s)
    | none => (.ok (), s.setWork serial { w with rest := .done (.signal 9) })

/-- What is asked about one of the programs. -/
def answerCall (serial : Nat) (call : ChildCall) (s : Workshop) :
    Routine (call.Answer × Workshop) :=
  match s.work[serial]?, call with
  | none, .tryWait => return (.ok none, s)
  | none, .signal => return (.ok (), s)
  | none, .wait => return (.ok .success, s)
  | some w, .tryWait => return (.ok (statusOf w.rest), s)
  | some w, .signal => return s.signal serial w
  | some w, .wait => do
    let (now, status, _) ←
      Routine.at w.place (Program.finish s.now w.since w.signalRefusal w.rest)
    return (.ok status, ← catchUp ({ s with now }.setWork serial { w with rest := .done status }))

/-- Does something with a child and keeps what it remembers. -/
def withChild {α : Type} (s : Workshop) (process : ToolProcess) (default : α)
    (act : Child → ChildAct (α × Child)) : Routine (α × Workshop) :=
  match s.work[process.serial]? with
  | none => return (default, s)
  | some w => do
    let ((a, child), s) ←
      (act w.child).relay (answerCall process.serial) (fun _ => return ()) s
    match s.work[process.serial]? with
    | none => return (a, s)
    | some w => return (a, s.setWork process.serial { w with child })

def tryWait (s : Workshop) (process : ToolProcess) :
    Routine (Reply (Option ToolExit) × Workshop) := do
  let (answer, s) ← s.withChild process (.ok none) Child.tryWait
  return (answer.map (·.map ExitStatus.toolExit), s)

def kill (s : Workshop) (process : ToolProcess) : Routine (Reply Unit × Workshop) :=
  s.withChild process (.ok ()) Child.kill

/-- Waits until the program has ended. -/
def await (s : Workshop) (process : ToolProcess) :
    Routine (Reply (Option ToolExit) × Workshop) := do
  let (_, s) ← s.withChild process (.ok ()) Child.wait
  s.tryWait process

/-! ## Conversions and sessions -/

def answer (natives : Natives) (question : Question) (s : Workshop) :
    Routine (question.Answer × Workshop) :=
  match question with
  | .launch invocation => s.launch natives invocation.program invocation.arguments
  | .tryWait process => s.tryWait process
  | .kill process => s.kill process
  | .clock => return (⟨s.now⟩, s)
  | .sleep time => do return ((), ← s.sleep time)
  | question => do return (← request (.inquiry (.conversion question)), s)

/-- The last day of 2024, at noon, when every workshop is opened. -/
def openedAt : Nat := 1735646400 * 1000000000

def inquire (natives : Natives) (i : CommandLine.Inquiry) (s : Workshop) :
    Routine (i.Answer × Workshop) :=
  match i with
  | .conversion question => s.answer natives question
  | .probe program argument => s.probe natives program [argument]
  | .wallClock => return (openedAt + s.now, s)
  | i => do return (← request (.inquiry i), s)

/-- What is logged goes to the stream of errors. -/
def utter : CommandLine.Utterance → Routine Unit
  | .printed text => print text
  | .logged r => complain (r.level.name ++ " " ++ r.target ++ ": " ++ r.message)

/-- The command line as a program. -/
def session (natives : Natives) (arguments : List String) : Program := do
  let signalRefusal ← request .signalRefusal
  let (code, _) ← (CommandLine.session {} (arguments.map Utf8.encode)).relay (inquire natives) utter
    { signalRefusal }
  return .code code

end Workshop

end SlideConverter

import SlideConverter.Machine.Workshop
import SlideConverter.Shell.Context

/-!
# Running scripts

A script is run line by line, so a line that is no command only matters once it is
reached. Evaluation needs fuel, and a script that uses all of it up is taken for one
that never ends. Job control, traps, arithmetic and the expansion of file names are
not there.
-/

namespace SlideConverter.Shell

open Text Routine

inductive Flow where
  | next
  | ended (status : ExitStatus)

def statusCode : ExitStatus → UInt8
  | .code n => n
  | .signal n => UInt8.ofNat (128 + n)

/-- The status of a script that got as far as this. -/
def Flow.status (flow : Flow) (x : Context) : UInt8 :=
  match flow with
  | .next => x.last
  | .ended status => statusCode status

/-- What a command leaves behind. -/
abbrev Step := Routine (Flow × Context)

def Context.after (x : Context) (status : ExitStatus) : Context :=
  { x with last := statusCode status }

def Context.done (x : Context) (status : ExitStatus) : Step := return (.next, x.after status)

/-- For ever, as far as anybody waits. -/
def stall : Routine Unit := request (.sleep (.ofSeconds (1000000000)))

/-- Whatever `act` enters, the place to go on from is the same afterwards. -/
def keepingPlace {α : Type} (act : Routine α) : Routine α := do
  let here ← request (.canonical (.ofString "."))
  let a ← act
  if let .ok path := here then
    let _ ← request (.enter path)
  return a

def syntaxError : ExitStatus := .code 2

def signalNumber? (word : List Char) : Option Nat :=
  match (String.ofList word).toNat? with
  | some n => some n
  | none =>
    let name := String.ofList word
    (List.range 32).find? fun n =>
      ExitStatus.signalName? n = some name || ExitStatus.signalName? n = some ("SIG" ++ name)

/-- The signal and the process that `kill` is told. -/
def killRequest? : List (List Char) → Option (Nat × List Char)
  | [['-', 's'], name, process] => (signalNumber? name).map (·, process)
  | [option, process] =>
    match option with
    | '-' :: name => (signalNumber? name).map (·, process)
    | _ => none
  | [process] => some (15, process)
  | _ => none

/-- Some signals are ignored unless a program asks for them. -/
def isDeadly (signal : Nat) : Bool := (ExitStatus.signalName? signal).isSome || signal ≥ 32

def kill (x : Context) (words : List (List Char)) : Step :=
  match killRequest? words with
  | none => x.done syntaxError
  | some (signal, process) => do
    if process ≠ ownProcess || (← request .signalRefusal).isSome then x.done .failure
    else if isDeadly signal then return (.ended (.signal signal), x)
    else x.done .success

def exitStatus (x : Context) : List (List Char) → ExitStatus
  | [] => .code x.last
  | word :: _ =>
    match (String.ofList word).toNat? with
    | some n => .code (UInt8.ofNat n)
    | none => syntaxError

/-- Where the streams go to, and what is read. -/
structure Plumbing where
  sink : Stream → Sink := .stream
  input : Bytes

def streamOf? : Nat → Option Stream
  | 1 => some .output
  | 2 => some .error
  | _ => none

def nullDevice : Path := .ofString "/dev/null"

def Plumbing.send (p : Plumbing) (stream : Stream) (sink : Sink) : Plumbing :=
  { p with sink := fun s => if s = stream then sink else p.sink s }

/-- One redirection; `none` if it cannot be done. -/
def connect (p : Plumbing) (r : Redirection) (target : List Char) : Routine (Option Plumbing) := do
  let path := Path.ofString (String.ofList target)
  match r.direction, streamOf? r.descriptor with
  | .read, _ =>
    if path = nullDevice then return some { p with input := [] }
    else
      match ← request (.read path) with
      | .ok content => return some { p with input := content }
      | .error _ => return none
  | .duplicate, some stream =>
    match (String.ofList target).toNat?.bind streamOf? with
    | some other => return some (p.send stream (p.sink other))
    | none => return if target = ['-'] then some (p.send stream .nowhere) else none
  | direction, some stream =>
    if path = nullDevice then return some (p.send stream .nowhere)
    else
      let made ←
        if direction = .append then request (.append path []) else request (.createFile path)
      match made with
      | .error _ => return none
      | .ok _ =>
        let full ← request (.canonical path)
        return some (p.send stream (.file (full.toOption.getD path)))
  | _, none => return some p

/-- What becomes of signals in the program that `enosys` is told to run, and which one that is; of
the system calls that can be taken away it knows the one for signals. -/
def withoutCalls? (refusal : Option SystemError) :
    List String → Option (Option SystemError × String × List String)
  | [] => none
  | "-s" :: "kill" :: rest => withoutCalls? (some .notImplemented) rest
  | program :: rest => if program.startsWith "-" then none else some (refusal, program, rest)

def dropNewlines (chars : List Char) : List Char :=
  (chars.reverse.dropWhile (· = '\n')).reverse

mutual

def expandPart : Nat → Context → Part → Routine (List Fragment × Context)
  | 0, x, _ => do
    stall
    return ([], x)
  | fuel + 1, x, part =>
    match part with
    | .text chars quoted => return ([.chars chars quoted], x)
    | .parameter name quoted => return (x.parameter name quoted, x)
    | .braces source quoted =>
      match bracesOf source with
      | none => return ([], x)
      | some (.length name) =>
        return ([.chars (digitsOf ((x.value? name).getD []).length) quoted], x)
      | some (.plain name) => return (x.parameter name quoted, x)
      | some (.edited name operator word) => expandEdited fuel x name operator word quoted
    | .command source quoted => do
      let inside := keepingPlace (runTokens fuel (tokens source) x)
      let ((flow, inner), printed) ← inside.gather .output
      let chars := dropNewlines (Utf8.decodeLossy printed).toList
      let fragments : List Fragment := if quoted then [.chars chars true] else splitBlanks chars
      return (fragments, { x with last := flow.status inner })

/-- A parameter with a replacement, or with a part cut off. -/
def expandEdited : Nat → Context → List Char → List Char → Word → Bool →
    Routine (List Fragment × Context)
  | 0, x, _, _, _, _ => do
    stall
    return ([], x)
  | fuel + 1, x, name, operator, word, quoted => do
    let value := x.value? name
    let isThere := value.any fun v => operator.head? ≠ some ':' || !v.isEmpty
    let own := x.parameter name quoted
    match operator.getLast? with
    | some '-' | some '?' => if isThere then return (own, x) else expandWord fuel x word
    | some '+' => if isThere then expandWord fuel x word else return ([], x)
    | some '=' =>
      if isThere then return (own, x)
      else
        let (fragments, x) ← expandWord fuel x word
        return (fragments, x.set name (plain (joined fragments)))
    | some mark =>
      let (fragments, x) ← expandWord fuel x word
      let marked := joined fragments
      let pattern := patternOf (marked.length + 1) marked
      let longest := operator.length = 2
      let v := value.getD []
      let kept := if mark = '%' then pattern.dropEnd longest v else pattern.dropStart longest v
      return (if quoted then [.chars kept true] else splitBlanks kept, x)
    | none => return (own, x)

def expandWord : Nat → Context → Word → Routine (List Fragment × Context)
  | 0, x, _ => do
    stall
    return ([], x)
  | fuel + 1, x, word =>
    match x.withoutEmptyQuotes word with
    | [] => return ([], x)
    | part :: parts => do
      let (first, x) ← expandPart fuel x part
      let (rest, x) ← expandWord fuel x parts
      return (first ++ rest, x)

def expandWords : Nat → Context → List Word → Routine (List (List Char) × Context)
  | 0, x, _ => do
    stall
    return ([], x)
  | fuel + 1, x, words =>
    match words with
    | [] => return ([], x)
    | word :: rest => do
      let (fragments, x) ← expandWord fuel x word
      let (later, x) ← expandWords fuel x rest
      return ((fields fragments).map plain ++ later, x)

/-- Whether one of the patterns stands for `subject`. -/
def matchesAny : Nat → Context → List Char → List Word → Routine (Bool × Context)
  | 0, x, _, _ => do
    stall
    return (false, x)
  | fuel + 1, x, subject, patterns =>
    match patterns with
    | [] => return (false, x)
    | word :: rest => do
      let (fragments, x) ← expandWord fuel x word
      let marked := joined fragments
      if (patternOf (marked.length + 1) marked).matches? subject then return (true, x)
      else matchesAny fuel x subject rest

def assign : Nat → Context → List (List Char × Word) → Routine Context
  | 0, x, _ => do
    stall
    return x
  | fuel + 1, x, assignments =>
    match assignments with
    | [] => return x
    | (name, word) :: rest => do
      let (fragments, x) ← expandWord fuel x word
      assign fuel (x.set name (plain (joined fragments))) rest

def connectAll : Nat → Context → Plumbing → List Redirection → Routine (Option Plumbing × Context)
  | 0, x, _, _ => do
    stall
    return (none, x)
  | fuel + 1, x, plumbing, redirections =>
    match redirections with
    | [] => return (some plumbing, x)
    | r :: rest => do
      let (fragments, x) ← expandWord fuel x r.target
      match ← connect plumbing r (plain (joined fragments)) with
      | none => return (none, x)
      | some plumbing => connectAll fuel x plumbing rest

/-- A command with redirections around it. -/
def redirected : Nat → Context → List Redirection → Command → Step
  | 0, x, _, _ => do
    stall
    return (.next, x)
  | fuel + 1, x, redirections, command => do
    match ← connectAll fuel x { input := x.input } redirections with
    | (none, x) => x.done syntaxError
    | (some plumbing, x) =>
      let (flow, inner) ←
        (evaluate fuel { x with input := plumbing.input } command).redirect plumbing.sink
      return (flow, { inner with input := x.input })

/-- The native program `name`. -/
def runNative : Nat → String → List String → Bytes → Program
  | 0, _, _, _ => do
    stall
    return .failure
  | fuel + 1, name, arguments, input =>
    if name = "sh" then runShell fuel (arguments.map String.toList) input
    else if name = "env" then
      match arguments.dropWhile (·.toList.contains '=') with
      | [] => return .success
      | program :: arguments => runProgram fuel program arguments input
    else if name = "enosys" then do
      let before ← request .signalRefusal
      match withoutCalls? before arguments with
      | none => Utility.usage name
      | some (after, program, arguments) =>
        request (.refuseSignals after)
        let status ← runProgram fuel program arguments input
        request (.refuseSignals before)
        return status
    else if name = "slidepush" then
      Workshop.session (fun name arguments => runNative fuel name arguments []) arguments
    else
      match Utility.find? name with
      | some utility => utility arguments input
      | none => return .code 127

/-- A program by its name or path, as a command of a script. -/
def runProgram : Nat → String → List String → Bytes → Program
  | 0, _, _, _ => do
    stall
    return .failure
  | fuel + 1, program, arguments, input => do
    match ← Executable.find program arguments with
    | .ok (name, arguments) => runNative fuel name arguments input
    | .error .badFormat => runShell fuel ((program :: arguments).map String.toList) input
    | .error .missing | .error .notDirectory =>
      complain (program ++ ": not found")
      return .code 127
    | .error cause =>
      complain (program ++ ": " ++ cause.text)
      return .code 126

/-- The shell itself, with its command line. -/
def runShell : Nat → List (List Char) → Bytes → Program
  | 0, _, _ => do
    stall
    return .failure
  | fuel + 1, arguments, input =>
    let start (source : List Char) (names : List (List Char)) : Program := do
      let x : Context :=
        { bindings := [("PPID".toList, parentProcess)], name := names.headD "sh".toList
          arguments := names.drop 1, input }
      match ← runTokens fuel (tokens source) x with
      | (.ended status, _) => return status
      | (.next, x) => return .code x.last
    match arguments with
    | [] => start (Utf8.decodeLossy input).toList []
    | ['-', 'c'] :: source :: names => start source names
    | ('-' :: letters) :: rest =>
      if letters.all fun c => ['e', 'f', 'n', 's', 'u', 'v', 'x'].contains c then
        runShell fuel rest input
      else do
        complain "sh: bad option"
        return syntaxError
    | file :: rest => do
      match ← request (.read (.ofString (String.ofList file))) with
      | .ok content => start (Utf8.decodeLossy content).toList (file :: rest)
      | .error _ =>
        complain "sh: cannot open script"
        return syntaxError

/-- The commands that the shell does not leave to programs. -/
def runWords : Nat → Context → List Char → List (List Char) → Step
  | 0, x, _, _ => do
    stall
    return (.next, x)
  | fuel + 1, x, name, words => do
    let strings := words.map String.ofList
    match String.ofList name with
    | ":" | "trap" | "umask" | "true" => x.done .success
    | "exit" | "return" => return (.ended (exitStatus x words), x)
    | "kill" => kill x words
    | "shift" =>
      let steps := ((strings.headD "1").toNat?).getD 1
      if steps ≤ x.arguments.length then
        Context.done { x with arguments := x.arguments.drop steps } .success
      else return (.ended syntaxError, x)
    | "unset" =>
      Context.done { x with bindings := x.bindings.filter fun v => !words.contains v.1 } .success
    | "set" =>
      match words with
      | ['-', '-'] :: arguments => Context.done { x with arguments } .success
      | _ => x.done .success
    | "export" => do
      let x ← assign fuel x (words.filterMap fun w => assignment? [.text w false])
      x.done .success
    | "eval" => runTokens fuel (tokens (words.intersperse [' ']).flatten) x
    | "exec" =>
      match strings with
      | [] => x.done .success
      | program :: arguments => do
        let status ← runProgram fuel program arguments x.input
        return (.ended status, x)
    | "echo" => do
      let (newline, shown) := match strings with
        | "-n" :: rest => (false, rest)
        | all => (true, all)
      x.done (← Utility.echoWith newline true shown)
    | "cd" => do
      match strings with
      | [path] =>
        match ← request (.enter (.ofString path)) with
        | .ok _ => x.done .success
        | .error _ => x.done syntaxError
      | _ => x.done syntaxError
    | program => do x.done (← keepingPlace (runProgram fuel program strings x.input))

def evaluate : Nat → Context → Command → Step
  | 0, x, _ => do
    stall
    return (.next, x)
  | fuel + 1, x, command =>
    match command with
    | .nothing => return (.next, x)
    | .simple assignments words redirections => do
      let (arguments, x) ← expandWords fuel x words
      match arguments with
      | [] => do
        let before := x.last
        let x ← assign fuel { x with last := 0 } assignments
        let x :=
          if assignments.isEmpty && redirections.isEmpty then { x with last := before } else x
        match ← connectAll fuel x { input := x.input } redirections with
        | (none, x) => x.done syntaxError
        | (some _, x) => return (.next, x)
      | name :: rest => do
        match ← connectAll fuel x { input := x.input } redirections with
        | (none, x) => x.done syntaxError
        | (some plumbing, x) =>
          let inner ← assign fuel { x with input := plumbing.input } assignments
          let (flow, after) ← (runWords fuel inner name rest).redirect plumbing.sink
          return (flow, { after with input := x.input })
    | .sequence first second => do
      match ← evaluate fuel x first with
      | (.ended status, x) => return (.ended status, x)
      | (.next, x) => evaluate fuel x second
    | .both first second => do
      match ← evaluate fuel x first with
      | (.ended status, x) => return (.ended status, x)
      | (.next, x) => if x.last = 0 then evaluate fuel x second else return (.next, x)
    | .either first second => do
      match ← evaluate fuel x first with
      | (.ended status, x) => return (.ended status, x)
      | (.next, x) => if x.last = 0 then return (.next, x) else evaluate fuel x second
    | .negation command => do
      match ← evaluate fuel x command with
      | (.ended status, x) => return (.ended status, x)
      | (.next, x) => return (.next, { x with last := if x.last = 0 then 1 else 0 })
    | .pipe first second => do
      let (_, printed) ← (keepingPlace (evaluate fuel x first)).gather .output
      let (flow, inner) ← keepingPlace (evaluate fuel { x with input := printed } second)
      return (.next, { x with last := flow.status inner })
    | .branch condition yes no => do
      match ← evaluate fuel x condition with
      | (.ended status, x) => return (.ended status, x)
      | (.next, x) =>
        if x.last = 0 then evaluate fuel { x with last := 0 } yes
        else evaluate fuel { x with last := 0 } no
    | .matching word patterns => do
      let (fragments, x) ← expandWord fuel x word
      let (found, x) ← matchesAny fuel x (plain (joined fragments)) patterns
      x.done (if found then .success else .failure)
    | .loop succeeds condition body => do
      match ← evaluate fuel x condition with
      | (.ended status, x) => return (.ended status, x)
      | (.next, x) =>
        if (x.last = 0) = succeeds then
          match ← evaluate fuel x body with
          | (.ended status, x) => return (.ended status, x)
          | (.next, x) => evaluate fuel x (.loop succeeds condition body)
        else return (.next, { x with last := 0 })
    | .each name items body => do
      match items with
      | none => runEach fuel x name x.arguments body
      | some words =>
        let (values, x) ← expandWords fuel x words
        runEach fuel x name values body
    | .group body redirections => redirected fuel x redirections body
    | .subshell body redirections => do
      let (flow, inner) ← keepingPlace (redirected fuel x redirections body)
      return (.next, { x with last := flow.status inner })

def runEach : Nat → Context → List Char → List (List Char) → Command → Step
  | 0, x, _, _, _ => do
    stall
    return (.next, x)
  | fuel + 1, x, name, values, body =>
    match values with
    | [] => return (.next, x)
    | value :: rest => do
      match ← evaluate fuel (x.set name value) body with
      | (.ended status, x) => return (.ended status, x)
      | (.next, x) => runEach fuel x name rest body

/-- A script from here on. -/
def runTokens : Nat → List Token → Context → Step
  | 0, _, x => do
    stall
    return (.next, x)
  | fuel + 1, ts, x =>
    match skipNewlines ts with
    | [] => return (.next, x)
    | ts => do
      match readLine (20 * (ts.length + 1)) ts with
      | none =>
        complain "sh: syntax error"
        return (.ended syntaxError, x)
      | some (command, rest) =>
        match ← evaluate fuel x command with
        | (.ended status, x) => return (.ended status, x)
        | (.next, x) => runTokens fuel rest x

end

/-- Enough for scripts that convert documents. -/
def scriptFuel : Nat := 20000

/-- The native programs of a machine. -/
def natives : Workshop.Natives := fun name arguments => runNative scriptFuel name arguments []

end SlideConverter.Shell

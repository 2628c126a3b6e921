import SlideConverter.Tool.Invocation

/-!
# How programs end

By themselves with a code, or by a signal.
-/

namespace SlideConverter

inductive ExitStatus where
  | code (code : UInt8)
  | signal (number : Nat)
deriving DecidableEq

namespace ExitStatus

def signalName? : Nat → Option String
  | 1 => some "SIGHUP"
  | 2 => some "SIGINT"
  | 3 => some "SIGQUIT"
  | 4 => some "SIGILL"
  | 5 => some "SIGTRAP"
  | 6 => some "SIGABRT"
  | 7 => some "SIGBUS"
  | 8 => some "SIGFPE"
  | 9 => some "SIGKILL"
  | 10 => some "SIGUSR1"
  | 11 => some "SIGSEGV"
  | 12 => some "SIGUSR2"
  | 13 => some "SIGPIPE"
  | 14 => some "SIGALRM"
  | 15 => some "SIGTERM"
  | 16 => some "SIGSTKFLT"
  | 24 => some "SIGXCPU"
  | 25 => some "SIGXFSZ"
  | 26 => some "SIGVTALRM"
  | 27 => some "SIGPROF"
  | 29 => some "SIGIO"
  | 30 => some "SIGPWR"
  | 31 => some "SIGSYS"
  | _ => none

def success : ExitStatus := .code 0

def failure : ExitStatus := .code 1

def describe : ExitStatus → String
  | .code n => "exit status: " ++ toString n.toNat
  | .signal n =>
    match signalName? n with
    | some name => "signal: " ++ toString n ++ " (" ++ name ++ ")"
    | none => "signal: " ++ toString n

def toolExit : ExitStatus → ToolExit
  | .code n => { code := some (Int32.ofNat n.toNat) }
  | .signal _ => { code := none }

end ExitStatus

end SlideConverter

import SlideConverter.Conversion.Error
import SlideConverter.Dialogue
import SlideConverter.SystemError
import SlideConverter.Tool.ExitStatus

/-!
# Child processes

A child is looked after by three system calls: a look at it that never waits, a signal
that ends it, and a wait that lasts until it has ended. Its exit status is handed over
once, by the call that sees it first, and is remembered from then on. Nothing here says
when the child ends by itself; that may be between any two calls.
-/

namespace SlideConverter

inductive ChildCall where
  | tryWait
  | signal
  | wait
deriving DecidableEq

@[reducible] def ChildCall.Answer : ChildCall → Type
  | .tryWait => Except SystemError (Option ExitStatus)
  | .signal => Except SystemError Unit
  | .wait => Except SystemError ExitStatus

/-- Mishaps on the way to ending a child. -/
inductive ChildWarning where
  | cannotTell (cause : ErrorChain)
  | cannotSignal (program : String) (cause : SystemError)

structure Child where
  program : String
  /-- How it ended, once that has been seen. -/
  reaped : Option ExitStatus := none

abbrev ChildAct (α : Type) := Dialogue ChildCall ChildCall.Answer ChildWarning α

namespace Child

def call (c : ChildCall) : ChildAct c.Answer := .question c

def context {α : Type} (message : String) : Except SystemError α → Except ErrorChain α
  | .ok a => .ok a
  | .error cause => .error ⟨[message, cause.message]⟩

/-- The exit status if the child has ended, without waiting for it. -/
def tryWait (child : Child) : ChildAct (Except ErrorChain (Option ExitStatus) × Child) := do
  match child.reaped with
  | some status => return (.ok (some status), child)
  | none =>
    let answer ← call .tryWait
    let child :=
      match answer with
      | .ok status => { child with reaped := status }
      | .error _ => child
    return (context ("try_wait " ++ child.program) answer, child)

def wait (child : Child) : ChildAct (Except ErrorChain Unit × Child) := do
  match child.reaped with
  | some _ => return (.ok (), child)
  | none =>
    let answer ← call .wait
    let child :=
      match answer with
      | .ok status => { child with reaped := some status }
      | .error _ => child
    return ((context ("wait after kill: " ++ child.program) answer).map fun _ => (), child)

def signal (child : Child) : ChildAct (Except SystemError Unit) :=
  match child.reaped with
  | some _ => return .ok ()
  | none => call .signal

/-- Ends the child and collects its exit status; nothing is done to a child that has ended. -/
def kill (child : Child) : ChildAct (Except ErrorChain Unit × Child) := do
  match ← child.tryWait with
  | (.ok (some _), child) => return (.ok (), child)
  | (seen, child) =>
    match seen with
    | .error cause => .remark (.cannotTell cause)
    | .ok _ => pure ()
    match ← child.signal with
    | .error cause => .remark (.cannotSignal child.program cause)
    | .ok _ => pure ()
    child.wait

end Child

end SlideConverter

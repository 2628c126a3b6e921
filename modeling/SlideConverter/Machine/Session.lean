import SlideConverter.CommandLine.Session
import SlideConverter.Machine.Basic

/-!
# Sessions on a machine

What a session asks, answered by a machine. While a session lasts, the machine shows
the program that it is a run of, where the tools of the session can find it.
-/

namespace SlideConverter.Machine

open CommandLine

def respondent : Respondent Inquiry Inquiry.Answer Machine where
  answer inquiry m := m.working (·.inquire Shell.natives inquiry)

/-- How a session went. -/
structure Transcript where
  exitCode : UInt8
  printed : String
  logged : List LogRecord
  machine : Machine

def printedText : Event Inquiry Inquiry.Answer Utterance → Option String
  | .noted (.printed text) => some text
  | _ => none

def loggedRecord : Event Inquiry Inquiry.Answer Utterance → Option LogRecord
  | .noted (.logged r) => some r
  | _ => none

/-- Where a process shows the program that it runs. -/
def processDirectory : Location :=
  ["proc", String.ofList Shell.parentProcess].map Text.Utf8.encode

/-- The process that the tools of a session are started by, and its program. -/
def withProcess (m : Machine) : Machine :=
  let tree := (m.tree.put (processDirectory.take 1) .directory).put processDirectory .directory
  let program := Executable.nativeFile "slidepush"
  { m with tree := tree.put (processDirectory ++ [Text.Utf8.encode "exe"]) program }

def runSession (m : Machine) (arguments : List Text.Bytes) : Transcript :=
  let p := (session {} arguments).perform respondent m.withProcess
  { exitCode := p.value
    printed := String.join (p.events.filterMap printedText)
    logged := p.events.filterMap loggedRecord
    machine := p.state }

end SlideConverter.Machine

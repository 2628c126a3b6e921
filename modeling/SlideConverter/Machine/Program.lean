import SlideConverter.CommandLine.Session
import SlideConverter.FileTree.Reply

/-!
# Programs

A program is a dialogue with the machine that it runs on. It asks for files and for
time, what it prints are its notes, and how it ends is its value. Signals may be refused
to it, and then they are refused to whatever it starts.
-/

namespace SlideConverter

open Text

inductive Stream where
  | output
  | error
deriving DecidableEq

/-- Something printed. -/
structure Print where
  stream : Stream
  text : Bytes

inductive Request where
  /-- What is at the end of a path, links followed. -/
  | look (path : Path)
  | read (path : Path)
  | list (path : Path)
  | canonical (path : Path)
  /-- From now on relative paths begin at a directory. -/
  | enter (path : Path)
  | createFile (path : Path)
  | append (path : Path) (more : Bytes)
  | copy (source target : Path)
  | rename (source target : Path)
  | removeFile (path : Path)
  | removeDirectory (path : Path)
  | removeDirectoryAll (path : Path)
  | makeDirectory (path : Path)
  | makeDirectoryAll (path : Path)
  | sleep (time : Duration)
  /-- What a session asks of the disk. -/
  | inquiry (inquiry : CommandLine.Inquiry)
  /-- Where relative paths begin. -/
  | place
  | goTo (place : Location)
  /-- Why signals are refused, if they are. -/
  | signalRefusal
  | refuseSignals (refusal : Option SystemError)

@[reducible] def Request.Answer : Request → Type
  | .look _ => Except SystemError Node
  | .read _ => Except SystemError Bytes
  | .list _ => Except SystemError (List Bytes)
  | .canonical _ => Except SystemError Path
  | .sleep _ => Unit
  | .inquiry i => i.Answer
  | .place => Location
  | .goTo _ => Unit
  | .signalRefusal => Option SystemError
  | .refuseSignals _ => Unit
  | _ => Except SystemError Unit

/-- A piece of a program. -/
abbrev Routine (α : Type) := Dialogue Request Request.Answer Print α

abbrev Program := Routine ExitStatus

namespace Routine

def request (r : Request) : Routine r.Answer := .question r

def print (text : String) : Routine Unit := .remark ⟨.output, Utf8.encode text⟩

def complain (text : String) : Routine Unit := .remark ⟨.error, Utf8.encode (text ++ "\n")⟩

/-- What is printed, apart from the rest. -/
def gather {α : Type} (stream : Stream) : Routine α → Routine (α × Bytes)
  | .done a => .done (a, [])
  | .ask r next => .ask r fun answer => gather stream (next answer)
  | .note p next =>
    if p.stream = stream then
      (gather stream next).bind fun (a, later) => .done (a, p.text ++ later)
    else .note p (gather stream next)

/-- Where the prints of a stream go to. -/
inductive Sink where
  | stream (stream : Stream)
  | file (path : Path)
  | nowhere

/-- The same routine with its streams going elsewhere. -/
def redirect {α : Type} (sink : Stream → Sink) : Routine α → Routine α
  | .done a => .done a
  | .ask r next => .ask r fun answer => redirect sink (next answer)
  | .note p next =>
    match sink p.stream with
    | .stream stream => .note ⟨stream, p.text⟩ (redirect sink next)
    | .file path => .ask (.append path p.text) fun _ => redirect sink next
    | .nowhere => redirect sink next

end Routine

namespace FileTree

/-- A tree by itself: there are no tools on it, and its calendar stands still. -/
def inquire (t : FileTree) : (i : CommandLine.Inquiry) → i.Answer × FileTree
  | .conversion question => answer question t
  | .readFile path => ((t.read path).toOption, t)
  | .isFile path => (t.isFile path, t)
  | .createFile path =>
    attempting ("create log file: " ++ path.display) (t.outcome (t.createFile path))
  | .canonicalize path => (t.canonicalize path, t)
  | .probe _ _ => (.error .missing, t)
  | .wallClock => (0, t)

/-- The file tree's part of the answers to a program. -/
def serve (t : FileTree) : (r : Request) → r.Answer × FileTree
  | .look path => ((t.lookUp .existing path).map (·.2), t)
  | .read path => (t.read path, t)
  | .list path => (t.list path, t)
  | .canonical path => (t.canonical path, t)
  | .enter path => t.outcome (t.enter path)
  | .createFile path => t.outcome (t.createFile path)
  | .append path more => t.outcome (t.append path more)
  | .copy source target => t.outcome (t.copy source target)
  | .rename source target => t.outcome (t.rename source target)
  | .removeFile path => t.outcome (t.removeFile path)
  | .removeDirectory path => t.outcome (t.removeDirectory path)
  | .removeDirectoryAll path => t.removeDirectoryAll path
  | .makeDirectory path => t.outcome (t.makeDirectory path)
  | .makeDirectoryAll path => t.makeDirectoryAll path
  | .sleep _ => ((), t)
  | .inquiry i => t.inquire i
  | .place => (t.current, t)
  | .goTo place => ((), { t with current := place })
  | .signalRefusal => (none, t)
  | .refuseSignals _ => ((), t)

def server : Respondent Request Request.Answer FileTree where
  answer request t := t.serve request

end FileTree

end SlideConverter

import SlideConverter.Machine.Session

/-!
# The command line

Runs a session on a machine that has copies of the files that the arguments and the
configuration name. Nothing on the disk is changed, and of the tools only those are
found that the machine brings along or that are scripts for its shell.
-/

namespace SlideConverter.CommandLine

open Text

/-- The documents and configurations that the arguments name. -/
def namedFiles (a : Arguments) : List Path :=
  let inputs := match a.command with
    | .doctor => []
    | .classify input | .convert input _ => [input]
  defaultConfigPath :: a.config.toList ++ inputs

/-- The scripts that stand for tools. -/
def namedTools (config : Config) : List Path :=
  ((ToolDiagnosis.tools config).map fun (program, _) => Path.ofString program).filter
    (·.bytes.contains Path.slash)

/-- The machine with a file and the directories around it. -/
def withFile (m : Machine) (path : Path) (content : Bytes) (executable : Bool) : Machine :=
  let directory := path.parent.getD (.ofString ".")
  let tree := (m.tree.makeDirectoryAll directory).2
  match tree.write path content executable with
  | .ok tree => { m with tree }
  | .error _ => m

def copyFile (executable : Bool) (m : Machine) (path : Path) : IO Machine := do
  match Utf8.decode? path.bytes with
  | none => return m
  | some name =>
    try
      let content ← IO.FS.readBinFile name
      return withFile m path content.toList executable
    catch _ => return m

/-- The configuration that a session on the machine will find. -/
def configOn (m : Machine) (a : Arguments) : Config :=
  match ((loadConfig a.config).perform Machine.respondent m).value with
  | .ok config => config
  | .error _ => {}

def prepareMachine (arguments : List Bytes) : IO Machine := do
  match read arguments with
  | .run a =>
    let m ← (namedFiles a).foldlM (copyFile false) Machine.fresh
    (namedTools (configOn m a)).foldlM (copyFile true) m
  | _ => return Machine.fresh

def showRecord (r : LogRecord) : String := r.level.name ++ " " ++ r.target ++ ": " ++ r.message

end SlideConverter.CommandLine

open SlideConverter CommandLine in
def main (arguments : List String) : IO UInt32 := do
  let arguments := arguments.map Text.Utf8.encode
  let transcript := (← prepareMachine arguments).runSession arguments
  IO.print transcript.printed
  for r in transcript.logged do
    IO.eprintln (showRecord r)
  return transcript.exitCode.toUInt32

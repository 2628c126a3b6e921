import SlideConverter.Shell.Evaluation

/-!
# A machine

A file tree and a workshop on it, in which the programs that the machine brings along
and scripts for its shell are at work.
-/

namespace SlideConverter

open Text

structure Machine extends Workshop where
  tree : FileTree := {}

namespace Machine

/-- Something that is done in the workshop of a machine. -/
def working {α : Type} (m : Machine) (act : Workshop → Routine (α × Workshop)) : α × Machine :=
  let p := (act m.toWorkshop).perform FileTree.server m.tree
  (p.value.1, { toWorkshop := p.value.2, tree := p.state })

def launch (m : Machine) (program : String) (arguments : List String) :
    Reply ToolProcess × Machine :=
  m.working (·.launch Shell.natives program arguments)

def probe (m : Machine) (program : String) (arguments : List String) :
    Except SystemError Probe × Machine :=
  m.working (·.probe Shell.natives program arguments)

def tryWait (m : Machine) (process : ToolProcess) : Reply (Option ToolExit) × Machine :=
  m.working (·.tryWait process)

def kill (m : Machine) (process : ToolProcess) : Reply Unit × Machine := m.working (·.kill process)

def await (m : Machine) (process : ToolProcess) : Reply (Option ToolExit) × Machine :=
  m.working (·.await process)

def answer (question : Question) (m : Machine) : question.Answer × Machine :=
  m.working (·.answer Shell.natives question)

def surroundings : Surroundings Machine where
  answer := Machine.answer

/-! ## A new machine -/

def directories : List Location :=
  [["usr"], ["usr", "bin"], ["tmp"], ["tmp", "desk"]].map (·.map Utf8.encode)

/-- The utilities and the shell, the latter under several names. -/
def nativePrograms : List (String × String) :=
  (Utility.table.map fun (name, _) => (name, name))
    ++ [("env", "env"), ("enosys", "enosys"), ("sh", "sh"), ("dash", "sh"), ("bash", "sh")]

def freshTree : FileTree :=
  let programs := nativePrograms.map fun (called, name) =>
    (["usr", "bin", called].map Utf8.encode, Executable.nativeFile name)
  { entries := directories.map (·, .directory) ++ programs
      ++ [([Utf8.encode "bin"], .link (.ofString "usr/bin"))]
    current := ["tmp", "desk"].map Utf8.encode }

/-- A machine with its own programs and an empty directory to work in. -/
def fresh : Machine := { tree := freshTree }

end Machine

end SlideConverter

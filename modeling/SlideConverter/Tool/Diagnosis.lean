import SlideConverter.SystemError
import SlideConverter.Text.Blank
import SlideConverter.Text.Utf8
import SlideConverter.Tool.ExitStatus

/-!
# Can a tool be used?

A tool is run with the argument that makes it say its version. It can be used if that
ends well; its version is the first line of what it prints that is not blank.
-/

namespace SlideConverter

open Text

/-- How a tool ended and what it printed. -/
structure Probe where
  status : ExitStatus
  printed : Bytes

namespace ToolDiagnosis

def version? (printed : Bytes) : Option String :=
  (((lines (Utf8.decodeLossy printed).toList).map trimBlanks).find? (!·.isEmpty)).map String.ofList

def ofProbe (program : String) : Except SystemError Probe → ToolDiagnosis
  | .ok probe =>
    { program
      available := probe.status = .success
      version := version? probe.printed
      error :=
        if probe.status = .success then none
        else some ("exited with " ++ probe.status.describe) }
  | .error cause => { program, available := false, version := none, error := some cause.message }

/-- The tools of a configuration, each with its argument, in the order in which they are used. -/
def tools (config : Config) : List (String × String) :=
  [(config.tools.officeProgram, config.tools.officeVersionArgument),
    (config.tools.rasterProgram, config.tools.rasterVersionArgument)]

end ToolDiagnosis

end SlideConverter

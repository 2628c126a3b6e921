import SlideConverter.Config

/-!
# Tools

What the two external tools are asked to do, and what is known of one that ended.
The office tool turns a document into a page-description file inside a directory;
the raster tool turns that file into numbered frames beside it.
-/

namespace SlideConverter

inductive Stage where
  | intermediate
  | images
deriving DecidableEq

def Stage.name : Stage → String
  | .intermediate => "intermediate"
  | .images => "images"

structure Invocation where
  stage : Stage
  program : String
  arguments : List String
deriving DecidableEq

namespace Invocation

def commandLine (i : Invocation) : String := " ".intercalate (i.program :: i.arguments)

/-- Office conversion of `source` into a page-description file inside `outDir`. -/
def office (config : Config) (source outDir : Path) : Invocation where
  stage := .intermediate
  program := config.tools.officeProgram
  arguments := ["--headless", "--invisible", "--convert-to", config.pipeline.intermediateExtension,
    "--outdir", outDir.display, source.display]

/-- The name the raster tool numbers its frames after. -/
def frameTemplate (config : Config) (outDir : Path) : Path :=
  outDir.join (.ofString (config.pipeline.slideStem ++ "." ++ config.pipeline.imageExtension))

/-- Rasterizes `intermediate` into frames inside `outDir`. -/
def raster (config : Config) (intermediate outDir : Path) : Invocation where
  stage := .images
  program := config.tools.rasterProgram
  arguments := [intermediate.display, (frameTemplate config outDir).display]

end Invocation

/-- How a tool ended; a tool that a signal ended has no code. -/
structure ToolExit where
  code : Option Int32
deriving DecidableEq

def ToolExit.success (e : ToolExit) : Bool := e.code == some 0

/-- Whether a tool could be run at all, and what it says its version is. -/
structure ToolDiagnosis where
  program : String
  available : Bool
  version : Option String
  error : Option String
deriving DecidableEq

end SlideConverter

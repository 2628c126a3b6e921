import SlideConverter.Text.Ascii
import SlideConverter.Path

/-!
# Configuration

Seven sections of options with their defaults, and the two questions the converter
asks of them about a path: is its extension accepted, and does it already name a
page-description file. Reading and writing them as text is in `Toml` and `Json`.
-/

namespace SlideConverter

open Text

structure GlobalOptions where
  /-- Whether a conversion prints its summary. -/
  printSummary : Bool := true
deriving DecidableEq

structure PathOptions where
  /-- Where a conversion gets its fresh directory, unless the caller names one. -/
  workDir : String := ".slidepush-work"
deriving DecidableEq

structure ToolOptions where
  officeProgram : String := "libreoffice"
  officeVersionArgument : String := "--version"
  rasterProgram : String := "convert"
  rasterVersionArgument : String := "-version"
deriving DecidableEq

structure PipelineOptions where
  pollIntervalMs : UInt64 := 100
  acceptedExtensions : List String :=
    ["odp", "ppt", "pptx", "ppx", "odt", "doc", "docx", "pdf"]
  intermediateExtension : String := "pdf"
  imageExtension : String := "jpg"
  slideStem : String := "slide"
  keepIntermediate : Bool := false
deriving DecidableEq

structure LimitOptions where
  /-- Zero waits for ever. -/
  jobTimeoutSeconds : UInt64 := 0
deriving DecidableEq

structure LoggingOptions where
  level : String := "info"
  json : Bool := false
  writeToFile : Bool := false
  filePath : String := ""
deriving DecidableEq

structure SecurityOptions where
  rejectUrlInputs : Bool := true
deriving DecidableEq

structure Config where
  global : GlobalOptions := {}
  paths : PathOptions := {}
  tools : ToolOptions := {}
  pipeline : PipelineOptions := {}
  limits : LimitOptions := {}
  logging : LoggingOptions := {}
  security : SecurityOptions := {}
deriving DecidableEq

namespace PipelineOptions

/-- The extension is text and one of the accepted ones, up to ASCII case. -/
def accepts (options : PipelineOptions) (path : Path) : Bool :=
  match path.extensionText with
  | some e => options.acceptedExtensions.any (sameIgnoringAsciiCase · e)
  | none => false

/-- A path with the intermediate extension needs no office tool. -/
def isIntermediate (options : PipelineOptions) (path : Path) : Bool :=
  match path.extensionText with
  | some e => sameIgnoringAsciiCase e options.intermediateExtension
  | none => false

/-- A path with the image extension is a frame. -/
def isImage (options : PipelineOptions) (path : Path) : Bool :=
  match path.extensionText with
  | some e => sameIgnoringAsciiCase e options.imageExtension
  | none => false

end PipelineOptions

end SlideConverter

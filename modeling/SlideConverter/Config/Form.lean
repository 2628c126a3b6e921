import SlideConverter.Config
import SlideConverter.Data.Schema

/-!
# The configuration as a tree

One table of sections. A section that is missing has its defaults; one that is there
has all its fields. In some notations a list in place of a record may have `surplus`
items behind its fields.
-/

namespace SlideConverter

namespace GlobalOptions

def schema : Schema GlobalOptions where
  make := mk
  columns := .field "print_summary" (·.printSummary) .bool .done

end GlobalOptions

namespace PathOptions

def schema : Schema PathOptions where
  make := mk
  columns := .field "work_dir" (·.workDir) .string .done

end PathOptions

namespace ToolOptions

def schema : Schema ToolOptions where
  make := mk
  columns :=
    .field "office_exe" (·.officeProgram) .string <|
    .field "office_version_arg" (·.officeVersionArgument) .string <|
    .field "raster_exe" (·.rasterProgram) .string <|
    .field "raster_version_arg" (·.rasterVersionArgument) .string .done

end ToolOptions

namespace PipelineOptions

def schema : Schema PipelineOptions where
  make := mk
  columns :=
    .field "poll_interval_ms" (·.pollIntervalMs) .uint64 <|
    .field "accepted_extensions" (·.acceptedExtensions) (.list .string Tree.string?) <|
    .field "intermediate_extension" (·.intermediateExtension) .string <|
    .field "image_extension" (·.imageExtension) .string <|
    .field "slide_stem" (·.slideStem) .string <|
    .field "keep_intermediate" (·.keepIntermediate) .bool .done

end PipelineOptions

namespace LimitOptions

def schema : Schema LimitOptions where
  make := mk
  columns := .field "job_timeout_seconds" (·.jobTimeoutSeconds) .uint64 .done

end LimitOptions

namespace LoggingOptions

def schema : Schema LoggingOptions where
  make := mk
  columns :=
    .field "level" (·.level) .string <|
    .field "json" (·.json) .bool <|
    .field "write_to_file" (·.writeToFile) .bool <|
    .field "file_path" (·.filePath) .string .done

end LoggingOptions

namespace SecurityOptions

def schema : Schema SecurityOptions where
  make := mk
  columns := .field "reject_url_inputs" (·.rejectUrlInputs) .bool .done

end SecurityOptions

namespace Config

/-- A section, with the defaults if it is missing. -/
def sectionKind {α : Type} (surplus : Bool) (default : α) (s : Schema α) : FieldKind α :=
  .defaulted default s.tree (s.ofTree? surplus)

def schema (surplus : Bool) : Schema Config where
  make := mk
  columns :=
    .field "global" (·.global) (sectionKind surplus {} GlobalOptions.schema) <|
    .field "paths" (·.paths) (sectionKind surplus {} PathOptions.schema) <|
    .field "tools" (·.tools) (sectionKind surplus {} ToolOptions.schema) <|
    .field "pipeline" (·.pipeline) (sectionKind surplus {} PipelineOptions.schema) <|
    .field "limits" (·.limits) (sectionKind surplus {} LimitOptions.schema) <|
    .field "logging" (·.logging) (sectionKind surplus {} LoggingOptions.schema) <|
    .field "security" (·.security) (sectionKind surplus {} SecurityOptions.schema) .done
  distinct := by simp [Columns.fields]

/-- The sections by name, in order. -/
def sections (c : Config) : List (String × Tree) := (schema false).columns.entries c

def tree (c : Config) : Tree := .record c.sections

def ofTree? (surplus : Bool) (t : Tree) : Option Config := (schema surplus).ofTree? surplus t

end Config

end SlideConverter

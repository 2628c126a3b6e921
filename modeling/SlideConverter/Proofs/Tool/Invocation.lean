import SlideConverter.Proofs.Path
import SlideConverter.Tool.Invocation

/-!
# What tools are told of paths

A tool is told of a path what people would be shown, and takes that for a path again. It gets the
path itself just where the path is text. The frames are numbered after a template that is put
behind the output directory as it is configured; whether it lies directly below that directory is
up to the configuration.
-/

namespace SlideConverter.Invocation

/-- The template as it is configured, without the output directory. -/
def frameName (config : Config) : Path :=
  .ofString (config.pipeline.slideStem ++ "." ++ config.pipeline.imageExtension)

variable (config : Config) (source intermediate outDir : Path)

theorem office_told : ∃ directory document, (office config source outDir).arguments =
      ["--headless", "--invisible", "--convert-to", config.pipeline.intermediateExtension,
        "--outdir", directory, document] ∧
    (Path.ofString directory = outDir ↔ outDir.IsText) ∧
    (Path.ofString document = source ↔ source.IsText) :=
  ⟨_, _, rfl, Path.ofString_display, Path.ofString_display⟩

theorem raster_told : ∃ file template, (raster config intermediate outDir).arguments =
      [file, template] ∧
    (Path.ofString file = intermediate ↔ intermediate.IsText) ∧
    (Path.ofString template = frameTemplate config outDir ↔
      (frameTemplate config outDir).IsText) :=
  ⟨_, _, rfl, Path.ofString_display, Path.ofString_display⟩

theorem isText_frameTemplate (text : outDir.IsText) : (frameTemplate config outDir).IsText :=
  Path.isText_join text (Path.isText_ofString _)

/-- Where stem and extension make an absolute path the output directory does not count; elsewhere
the template lies directly below it just where they make a single name. -/
theorem frameTemplate_below_iff :
    (∃ name, (frameTemplate config outDir).steps = outDir.steps ++ [.name name]) ↔
      if (frameName config).isAbsolute then
        ∃ name, (frameName config).steps = outDir.steps ++ [.name name]
      else ∃ name, (frameName config).steps = [.name name] := by
  have joined : frameTemplate config outDir = outDir.join (frameName config) := rfl
  split
  · rename_i rooted
    rw [joined, Path.join, if_pos rooted]
  · rename_i relative
    rw [joined, Path.steps_join (by simpa using relative)]
    simp

end SlideConverter.Invocation

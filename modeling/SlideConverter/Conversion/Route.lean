import SlideConverter.Config

/-!
# The tools that a document needs

Known from its name alone.
-/

namespace SlideConverter

inductive Route where
  | rejected
  | raster
  | officeAndRaster
deriving DecidableEq

def Route.name : Route → String
  | .rejected => "rejected"
  | .raster => "raster"
  | .officeAndRaster => "office+raster"

def PipelineOptions.route (options : PipelineOptions) (source : Path) : Route :=
  if options.accepts source then
    if options.isIntermediate source then .raster else .officeAndRaster
  else .rejected

end SlideConverter

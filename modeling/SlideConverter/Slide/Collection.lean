import SlideConverter.Config
import SlideConverter.Slide.Key

/-!
# Slides in order

The frames among the entries of a directory, by key and then by the bytes of their
names; frames that agree in both stay as they were listed. Their places count from 1.
-/

namespace SlideConverter

open Text

structure Slide where
  imagePath : Path
  displayIndex : Nat
deriving DecidableEq

structure SlideCollection where
  slides : List Slide := []
deriving DecidableEq

/-- An entry with the two things that place it. -/
structure Frame where
  key : Nat
  name : Bytes
  path : Path

def Frame.le (a b : Frame) : Bool := a.key < b.key || (a.key == b.key && decide (a.name ≤ b.name))

namespace SlideCollection

def size (c : SlideCollection) : Nat := c.slides.length

def isEmpty (c : SlideCollection) : Bool := c.slides.isEmpty

def framePattern (options : PipelineOptions) : SlidePattern :=
  ⟨options.slideStem, options.imageExtension⟩

/-- An entry with the image extension whose name is text. -/
def frame? (options : PipelineOptions) (path : Path) : Option Frame :=
  if options.isImage path then
    match path.fileName with
    | some bytes => (Utf8.decode? bytes).map fun name =>
        { key := (framePattern options).key name, name := bytes, path := path }
    | none => none
  else none

def ofEntries (options : PipelineOptions) (entries : List Path) : SlideCollection where
  slides := ((entries.filterMap (frame? options)).mergeSort Frame.le).mapIdx fun i f =>
    { imagePath := f.path, displayIndex := i + 1 }

end SlideCollection

end SlideConverter

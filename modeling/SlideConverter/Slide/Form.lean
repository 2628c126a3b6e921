import SlideConverter.Data.Schema
import SlideConverter.Slide.Collection

/-!
# Slides as trees

A path goes into a tree as text; one that is not UTF-8 becomes a string without text.
-/

namespace SlideConverter

open Text

namespace Path

def tree (p : Path) : Tree := .text (Utf8.decode? p.bytes)

def ofTree? (t : Tree) : Option Path := t.string?.map Path.ofString

end Path

namespace Slide

def schema : Schema Slide where
  make := mk
  columns :=
    .field "image_path" (·.imagePath) (.required Path.tree Path.ofTree?) <|
    .field "display_index" (·.displayIndex) (.required (.integer ·) (Tree.natural? 64)) .done

def tree (s : Slide) : Tree := schema.tree s

def ofTree? (t : Tree) : Option Slide := schema.ofTree? false t

end Slide

namespace SlideCollection

def schema : Schema SlideCollection where
  make := mk
  columns := .field "slides" (·.slides) (.list Slide.tree Slide.ofTree?) .done

def tree (c : SlideCollection) : Tree := schema.tree c

def ofTree? (t : Tree) : Option SlideCollection := schema.ofTree? false t

end SlideCollection

end SlideConverter

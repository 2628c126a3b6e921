import SlideConverter.Proofs.Data.Schema
import SlideConverter.Proofs.Text.Utf8
import SlideConverter.Slide.Form

/-!
# Slides that are read back

A slide is read back from each of its forms if its path is text, since the path is written as one.
-/

namespace SlideConverter

open Text SlideConverter.Tree FieldKind

namespace Path

theorem ofTree?_tree {p : Path} (readable : Utf8.IsText p.bytes) : ofTree? p.tree = some p := by
  obtain ⟨text, read⟩ := Option.isSome_iff_exists.mp readable
  rw [ofTree?, tree, read, string?, Option.map_some, ofString, Utf8.encode_of_decode? read]

theorem writable_tree {p : Path} (readable : Utf8.IsText p.bytes) : p.tree.Writable := by
  obtain ⟨text, read⟩ := Option.isSome_iff_exists.mp readable
  rw [tree, read]
  exact .string text

end Path

namespace Slide

/-- The path is text, and the index is a number of 64 bits. -/
structure IsText (s : Slide) : Prop where
  path : Utf8.IsText s.imagePath.bytes
  index : s.displayIndex < 2 ^ 64

/-- How a slide may be written. -/
def Form (s : Slide) : Tree → Prop :=
  IsRecord schema.fields [(· = s.imagePath.tree), (· = .integer s.displayIndex)]

theorem readBack {s : Slide} (isText : s.IsText) : ReadBack tree ofTree? Form s := by
  have path := stands_only Path.tree (Path.writable_tree isText.path)
    (Path.ofTree?_tree isText.path)
  have index := stands_only (fun n : Nat => .integer n) (.integer s.displayIndex)
    (natural?_integer 64 isText.index)
  have known : schema.columns.Forms s _ := .field path <| .field index .done
  exact schema.readBack false known rfl

end Slide

namespace SlideCollection

/-- How slides may be written, each in its own way. -/
def Form (c : SlideCollection) : Tree → Prop :=
  IsRecord schema.fields [IsListOf Slide.Form c.slides]

theorem readBack {c : SlideCollection} (areText : ∀ s ∈ c.slides, s.IsText) :
    ReadBack tree ofTree? Form c := by
  have slides := stands_list fun s there => Slide.readBack (areText s there)
  have known : schema.columns.Forms c _ := .field slides .done
  exact schema.readBack false known rfl

end SlideCollection

end SlideConverter

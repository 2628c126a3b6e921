import Mathlib.Data.List.Lex
import SlideConverter.Proofs.Text.Utf8
import SlideConverter.Slide.Collection

/-!
# Slides and the entries they come from

Frames are in order by key and then by name. Every slide is one of the entries listed, and its
file name is text.
-/

namespace SlideConverter

open Text

namespace Frame

theorem le_iff {a b : Frame} : a.le b = true ↔ a.key < b.key ∨ a.key = b.key ∧ a.name ≤ b.name := by
  simp [le]

protected theorem le_total (a b : Frame) : a.le b = true ∨ b.le a = true := by
  rw [le_iff, le_iff]
  rcases Nat.lt_trichotomy a.key b.key with less | same | more
  · exact .inl (.inl less)
  · rcases List.le_total a.name b.name with le | ge
    · exact .inl (.inr ⟨same, le⟩)
    · exact .inr (.inr ⟨same.symm, ge⟩)
  · exact .inr (.inl more)

protected theorem le_trans {a b c : Frame} (first : a.le b = true) (second : b.le c = true) :
    a.le c = true := by
  rw [le_iff] at *
  rcases first with less | ⟨same, le⟩
  · rcases second with less' | ⟨same', -⟩ <;> exact .inl (by omega)
  · rcases second with less' | ⟨same', le'⟩
    · exact .inl (by omega)
    · exact .inr ⟨same.trans same', List.le_trans le le'⟩

theorem name_eq_of_le {a b : Frame} (le : a.le b = true) (ge : b.le a = true) :
    a.name = b.name := by
  rw [le_iff] at le ge
  rcases le with less | ⟨same, le⟩
  · rcases ge with less' | ⟨same, -⟩ <;> omega
  · rcases ge with less | ⟨-, ge⟩
    · omega
    · exact List.le_antisymm le ge

end Frame

namespace SlideCollection

variable {options : PipelineOptions} {p : Path} {f : Frame}

theorem frame?_eq_some (framed : frame? options p = some f) :
    f.path = p ∧ p.fileName = some f.name ∧ Utf8.IsText f.name := by
  rw [frame?] at framed
  split at framed
  · split at framed
    · rename_i bytes named
      obtain ⟨name, read, rfl⟩ := Option.map_eq_some_iff.mp framed
      exact ⟨rfl, named, by rw [Utf8.IsText, read]; rfl⟩
    · cases framed
  · cases framed

theorem mem_ofEntries {entries : List Path} {slide : Slide}
    (there : slide ∈ (ofEntries options entries).slides) :
    slide.imagePath ∈ entries ∧
      ∃ name, slide.imagePath.fileName = some name ∧ Utf8.IsText name := by
  obtain ⟨i, short, rfl⟩ := List.mem_mapIdx.mp there
  have framed := List.mem_mergeSort.mp (List.getElem_mem short)
  obtain ⟨p, listed, framed⟩ := List.mem_filterMap.mp framed
  obtain ⟨path, named, readable⟩ := frame?_eq_some framed
  rw [path]
  exact ⟨listed, _, named, readable⟩

end SlideCollection

end SlideConverter


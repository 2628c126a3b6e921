import SlideConverter.Proofs.Conversion.ListingOrder
import SlideConverter.Proofs.Slide.Cut
import SlideConverter.Proofs.Slide.Order

/-!
# Frames by the numbers of their pages

The raster tool numbers its frames after a template, one for each page. Such a name is read as the
number of its page, whatever stem and extension are made of, so that the frames are in the order of
the pages. The frame of a lone page has the name of the template itself.
-/

namespace SlideConverter

open Text

/-! ## Names -/

namespace SlidePattern

variable {digits : List Char} {n : Nat}

end SlidePattern

/-! ## Listings of frames -/

namespace SlideCollection

variable {options : PipelineOptions} {dir p : Path} {entries frames others : List Path}
  {pages : List Nat} {n : Nat}

theorem framed_eq_of_le {q : Path} (le : (framed options p).le (framed options q) = true)
    (ge : (framed options q).le (framed options p) = true) : place options p = place options q := by
  have names := Frame.name_eq_of_le le ge
  rw [Frame.le_iff] at le ge
  have keys : (framed options p).key = (framed options q).key := by omega
  exact Prod.ext keys names

/-- Frames of different places that are in order are the slides, whatever else is listed. -/
theorem ofEntries_eq_of_perm (listed : entries.Perm (frames ++ others))
    (all : ∀ p ∈ frames, IsFrame options p) (none : ∀ p ∈ others, options.isImage p = false)
    (ordered : frames.Pairwise fun p q => PlaceLe (place options p) (place options q))
    (apart : ∀ p ∈ frames, ∀ q ∈ frames, place options p = place options q → p = q) :
    ofEntries options entries = ⟨frames.mapIdx fun i p => ⟨p, i + 1⟩⟩ := by
  have kept : (frames ++ others).filter (IsFrame options ·) = frames := by
    have all_kept : frames.filter (IsFrame options ·) = frames := by
      simpa using all
    have none_kept : others.filter (IsFrame options ·) = [] := by
      simp +contextual [isFrame_iff, none]
    rw [List.filter_append, all_kept, none_kept, List.append_nil]
  have perm : (entries.filterMap (frame? options)).Perm (frames.map (framed options)) := by
    rw [filterMap_frame?]
    exact (kept ▸ listed.filter (IsFrame options ·)).map _
  have sorted : (frames.map (framed options)).Pairwise fun a b => a.le b = true :=
    List.pairwise_map.mpr (ordered.imp le_framed.mpr)
  have arranged : (entries.filterMap (frame? options)).mergeSort Frame.le =
      frames.map (framed options) := by
    rw [← List.mergeSort_of_pairwise sorted]
    refine mergeSort_eq_of_perm perm (fun _ _ _ => Frame.le_trans) Frame.le_total ?_
    intro a ha b hb le ge
    obtain ⟨p, hp, rfl⟩ := List.mem_map.mp (perm.mem_iff.mp ha)
    obtain ⟨q, hq, rfl⟩ := List.mem_map.mp (perm.mem_iff.mp hb)
    rw [apart p hp q hq (framed_eq_of_le le ge)]
  rw [ofEntries, arranged]
  apply congrArg SlideCollection.mk
  apply List.ext_getElem <;> simp [framed]

end SlideCollection

namespace Converter

open SlideCollection

end Converter

end SlideConverter

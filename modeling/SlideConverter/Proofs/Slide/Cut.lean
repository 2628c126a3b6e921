import Mathlib.Data.List.Forall2
import SlideConverter.Slide.Key
import SlideConverter.Proofs.Text.Decimal

/-!
# The parts of a frame's name

A name is written as a stem, a dash, digits, a dot and an extension in one way at most, since the
lengths of stem and extension are known; so stem and extension may hold dashes, digits and dots
themselves. The key of a name that can be written so is the number of its digits, as far as keys
go, and of any other name it is zero.
-/

namespace SlideConverter

namespace Text.CaseFolding

/-- Only letters are the image of another character. -/
theorem eq_of_fold_eq {c mark : Char} (visible : 0 < mark.toNat) (small : mark.toNat < 'a'.toNat)
    (same : fold c = mark) : c = mark := by
  have large : ∀ r ∈ runs, 'a'.toNat ≤ r.image := by decide +kernel
  rw [fold] at same
  split at same
  · rename_i r found
    have image := large r (List.mem_of_find?_eq_some found)
    exfalso
    by_cases valid : (c.toNat - r.first + r.image).isValidChar
    · rw [← same, Char.toNat, Char.ofNat, dif_pos valid] at small
      change c.toNat - r.first + r.image < _ at small
      omega
    · rw [← same, Char.ofNat, dif_neg valid] at visible
      exact absurd visible (by decide)
  · exact same

theorem same_mark {mark : Char} (itself : fold mark = mark) (visible : 0 < mark.toNat)
    (small : mark.toNat < 'a'.toNat) (c : Char) : same mark c = true ↔ c = mark := by
  rw [same, itself, beq_iff_eq, eq_comm]
  exact ⟨eq_of_fold_eq visible small, fun h => h ▸ itself⟩

theorem same_dash : ∀ c, same '-' c = true ↔ c = '-' :=
  same_mark (by decide +kernel) (by decide) (by decide)

theorem same_dot : ∀ c, same '.' c = true ↔ c = '.' :=
  same_mark (by decide +kernel) (by decide) (by decide)

end Text.CaseFolding

open Text

namespace SlidePattern

/-- The same up to case, character by character. -/
def SameText (a b : List Char) : Prop := List.Forall₂ (fun p c => CaseFolding.same p c = true) a b

instance (a b : List Char) : Decidable (SameText a b) :=
  inferInstanceAs (Decidable (List.Forall₂ _ a b))

theorem SameText.refl (chars : List Char) : SameText chars chars :=
  List.forall₂_same.mpr fun c _ => by simp [CaseFolding.same]

/-- What stands before the dash, between dash and dot, and behind the dot. -/
structure Cut where
  stem : String
  digits : String
  extension : String

/-- A way to write `name` as the pattern says. -/
structure IsCut (pattern : SlidePattern) (name : String) (cut : Cut) : Prop where
  whole : name = cut.stem ++ "-" ++ cut.digits ++ "." ++ cut.extension
  stem : SameText pattern.stem.toList cut.stem.toList
  nonempty : cut.digits ≠ ""
  decimal : ∀ c ∈ cut.digits.toList, isDecimalDigit c = true
  extension : SameText pattern.extension.toList cut.extension.toList

variable {pattern : SlidePattern} {name : String} {cut : Cut}

theorem IsCut.toList_eq (isCut : pattern.IsCut name cut) : name.toList =
    cut.stem.toList ++ '-' :: (cut.digits.toList ++ '.' :: cut.extension.toList) := by
  simp [isCut.whole]

/-- Stem and extension are as long as those of the pattern, which leaves one place for each. -/
theorem IsCut.unique {cut' : Cut} (isCut : pattern.IsCut name cut)
    (isCut' : pattern.IsCut name cut') : cut = cut' := by
  have same := isCut.toList_eq.symm.trans isCut'.toList_eq
  have stems : cut.stem.toList.length = cut'.stem.toList.length :=
    isCut.stem.length_eq.symm.trans isCut'.stem.length_eq
  have extensions : cut.extension.toList.length = cut'.extension.toList.length :=
    isCut.extension.length_eq.symm.trans isCut'.extension.length_eq
  obtain ⟨stem, behind⟩ := List.append_inj same stems
  obtain ⟨digits, dotted⟩ := List.append_inj' (List.cons.inj behind).2 (by simp [extensions])
  have extension := (List.cons.inj dotted).2
  cases cut
  cases cut'
  rw [Cut.mk.injEq]
  exact ⟨String.toList_inj.mp stem, String.toList_inj.mp digits, String.toList_inj.mp extension⟩

/-- A pattern that ends with a mark is cut off up to the mark, where no other character is the
same as the mark. -/
theorem dropSame_mark {mark : Char} (lone : ∀ c, CaseFolding.same mark c = true ↔ c = mark)
    {chars text rest : List Char} : dropSame (chars ++ [mark]) text = some rest ↔
      ∃ front, text = front ++ mark :: rest ∧ SameText chars front := by
  induction chars generalizing text with
  | nil =>
    cases text with
    | nil => simp [dropSame]
    | cons c text => simp [dropSame, lone, SameText]
  | cons p chars ih =>
    cases text with
    | nil => simp [dropSame]
    | cons c text =>
      simp only [List.cons_append, dropSame, SameText, List.forall₂_cons_left_iff]
      constructor
      · intro dropped
        split at dropped
        · rename_i same
          obtain ⟨front, rfl, alike⟩ := ih.mp dropped
          exact ⟨c :: front, rfl, c, front, same, alike, rfl⟩
        · cases dropped
      · rintro ⟨_, whole, c', front, same, alike, rfl⟩
        obtain ⟨rfl, rfl⟩ := List.cons.inj whole
        rw [if_pos same]
        exact ih.mpr ⟨front, rfl, alike⟩

theorem digits?_eq_some_iff {digits : List Char} : pattern.digits? name = some digits ↔
    ∃ cut, pattern.IsCut name cut ∧ cut.digits.toList = digits := by
  constructor
  · intro found
    rw [digits?] at found
    split at found
    · cases found
    · rename_i rest front
      obtain ⟨stem, whole, stems⟩ := (dropSame_mark CaseFolding.same_dash).mp front
      split at found
      · cases found
      · rename_i reversed back
        obtain ⟨extension, ended, extensions⟩ := (dropSame_mark CaseFolding.same_dot).mp back
        split at found
        · cases found
        · rename_i proper
          cases found
          simp only [Bool.or_eq_true, Bool.not_eq_true', not_or, List.isEmpty_iff,
            Bool.not_eq_false, List.all_eq_true] at proper
          have ending : rest = reversed.reverse ++ '.' :: extension.reverse := by
            rw [← List.reverse_reverse rest, ended]
            simp
          refine ⟨⟨.ofList stem, .ofList reversed.reverse, .ofList extension.reverse⟩, ?_, by simp⟩
          refine ⟨?_, by simpa using stems, by simpa using proper.1, by simpa using proper.2, ?_⟩
          · rw [← String.toList_inj, whole, ending]
            simp
          · rw [SameText, ← List.forall₂_reverse_iff]
            simpa [SameText] using extensions
  · rintro ⟨cut, isCut, rfl⟩
    have front := (dropSame_mark CaseFolding.same_dash).mpr ⟨_, isCut.toList_eq, isCut.stem⟩
    have back : dropSame (pattern.extension.toList.reverse ++ ['.'])
        (cut.digits.toList ++ '.' :: cut.extension.toList).reverse =
          some cut.digits.toList.reverse := by
      refine (dropSame_mark CaseFolding.same_dot).mpr ⟨cut.extension.toList.reverse, by simp, ?_⟩
      exact List.forall₂_reverse_iff.mpr isCut.extension
    have someDigits : cut.digits.toList.reverse.isEmpty = false := by simpa using isCut.nonempty
    have allDecimal : cut.digits.toList.reverse.all isDecimalDigit = true := by
      simpa using isCut.decimal
    simp only [digits?, front, back, someDigits, allDecimal]
    simp

/-- There is one way at most to write a name as the pattern says, and only a name for which there
is one has a number: that of its digits, and beyond 64 bits the largest one. -/
theorem key_of_unique_cut (pattern : SlidePattern) (name : String) :
    (∀ cut cut', pattern.IsCut name cut → pattern.IsCut name cut' → cut = cut') ∧
    ((¬ ∃ cut, pattern.IsCut name cut) → pattern.key name = 0) ∧
    ∀ cut, pattern.IsCut name cut → (∀ c ∈ cut.digits.toList, c.isDigit = true) →
      pattern.key name = min (decimalValue cut.digits.toList) (2 ^ 64 - 1) := by
  refine ⟨fun _ _ isCut isCut' => isCut.unique isCut', ?_, ?_⟩
  · intro uncut
    cases found : pattern.digits? name with
    | none => rw [key, found]
    | some digits =>
      obtain ⟨cut, isCut, -⟩ := digits?_eq_some_iff.mp found
      exact absurd ⟨cut, isCut⟩ uncut
  · intro cut isCut ascii
    have found : pattern.digits? name = some cut.digits.toList :=
      digits?_eq_some_iff.mpr ⟨cut, isCut, rfl⟩
    have nonempty : cut.digits.toList ≠ [] := by simpa using isCut.nonempty
    simp only [key, found, asciiNumber?_of_isDigit nonempty ascii]
    rfl

/-- A stem and an extension with a dash, digits and a dot of their own, in other letters. -/
theorem folded_name_has_key :
    let pattern : SlidePattern := ⟨"slides-1", "2.jpg"⟩
    let cut : Cut := ⟨"ſlideS-1", "007", "2.JPG"⟩
    pattern.IsCut "ſlideS-1-007.2.JPG" cut ∧ (∀ c ∈ cut.digits.toList, c.isDigit = true) ∧
      pattern.key "ſlideS-1-007.2.JPG" = 7 ∧
      (¬ ∃ cut, pattern.IsCut "slides-1-2.jpg" cut) ∧ pattern.key "slides-1-2.jpg" = 0 := by
  intro pattern cut
  have ascii : ∀ c ∈ cut.digits.toList, c.isDigit = true :=
    List.all_eq_true.mp (by decide +kernel)
  have decimal : ∀ c ∈ cut.digits.toList, isDecimalDigit c = true :=
    List.all_eq_true.mp (by decide +kernel)
  have isCut : pattern.IsCut "ſlideS-1-007.2.JPG" cut := by
    refine ⟨by decide, ?_, by decide, decimal, ?_⟩ <;> decide +kernel
  have uncut : ¬ ∃ cut, pattern.IsCut "slides-1-2.jpg" cut := by
    rintro ⟨cut, isCut⟩
    have none : pattern.digits? "slides-1-2.jpg" = none := by decide +kernel
    rw [digits?_eq_some_iff.mpr ⟨cut, isCut, rfl⟩] at none
    cases none
  obtain ⟨-, -, numbered⟩ := key_of_unique_cut pattern "ſlideS-1-007.2.JPG"
  obtain ⟨-, unnumbered, -⟩ := key_of_unique_cut pattern "slides-1-2.jpg"
  have value : decimalValue cut.digits.toList = 7 := by decide
  refine ⟨isCut, ascii, ?_, uncut, unnumbered uncut⟩
  rw [numbered cut isCut ascii, value]
  decide

end SlidePattern

end SlideConverter

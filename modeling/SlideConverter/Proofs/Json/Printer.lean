import SlideConverter.Data.Sorted
import SlideConverter.Json.Printer

/-!
# Trees that can be printed

A tree has a JSON text just when every string in it is text, and the order of its fields
makes no difference to that.
-/

namespace SlideConverter

namespace Tree

mutual

/-- Every string in the tree is text. -/
def isText : Tree → Bool
  | .text s => s.isSome
  | .list items => itemsAreText items
  | .table fields => fieldsAreText fields
  | .null | .bool _ | .integer _ | .other _ => true

def itemsAreText : List Tree → Bool
  | [] => true
  | t :: rest => t.isText && itemsAreText rest

def fieldsAreText : List (Option String × Tree) → Bool
  | [] => true
  | (key, t) :: rest => key.isSome && (t.isText && fieldsAreText rest)

end

theorem itemsAreText_eq_all (items : List Tree) : itemsAreText items = items.all isText := by
  induction items with
  | nil => rfl
  | cons t rest ih => rw [itemsAreText, ih, List.all_cons]

theorem fieldsAreText_eq_all (fields : List (Option String × Tree)) :
    fieldsAreText fields = fields.all fun f => f.1.isSome && f.2.isText := by
  induction fields with
  | nil => rfl
  | cons f rest ih => rw [fieldsAreText, ih, List.all_cons, Bool.and_assoc]

/-! ## Sorting -/

theorem insertField_perm (f : Option String × Tree) (fields : List (Option String × Tree)) :
    (insertField f fields).Perm (f :: fields) := by
  induction fields with
  | nil => exact .refl _
  | cons g rest ih =>
    rw [insertField]
    split
    · exact .refl _
    · exact (ih.cons g).trans (.swap f g rest)

mutual

theorem isText_sorted : (t : Tree) → t.sorted.isText = t.isText
  | .list items => by rw [sorted, isText, isText, itemsAreText_sortedItems items]
  | .table fields => by rw [sorted, isText, isText, fieldsAreText_sortedFields fields]
  | .null | .bool _ | .integer _ | .other _ | .text _ => by simp [sorted]

theorem itemsAreText_sortedItems : (items : List Tree) →
    itemsAreText (sortedItems items) = itemsAreText items
  | [] => rfl
  | t :: rest => by
    rw [sortedItems, itemsAreText, itemsAreText, isText_sorted t, itemsAreText_sortedItems rest]

theorem fieldsAreText_sortedFields : (fields : List (Option String × Tree)) →
    fieldsAreText (sortedFields fields) = fieldsAreText fields
  | [] => rfl
  | (key, t) :: rest => by
    rw [sortedFields, fieldsAreText_eq_all, (insertField_perm _ _).all_eq, ← fieldsAreText_eq_all,
      fieldsAreText, fieldsAreText, isText_sorted t, fieldsAreText_sortedFields rest]

end

/-! ## Records -/

theorem isText_record (fields : List (String × Tree)) :
    (record fields).isText = fields.all (·.2.isText) := by
  rw [record, isText, fieldsAreText_eq_all, List.all_map]
  rfl

end Tree

namespace Json

namespace Layout

variable (layout : Layout)

mutual

theorem isSome_write? : (level : Nat) → (t : Tree) → (layout.write? level t).isSome = t.isText
  | level, .list items => by
    rw [write?, Tree.isText, ← isSome_writeItems? (level + 1) items]
    cases layout.writeItems? (level + 1) items <;> rfl
  | level, .table fields => by
    rw [write?, Tree.isText, ← isSome_writeFields? (level + 1) fields]
    cases layout.writeFields? (level + 1) fields <;> rfl
  | _, .text s => by
    rw [write?, Tree.isText]
    cases s <;> rfl
  | _, .null | _, .bool _ | _, .integer _ | _, .other _ => by rw [write?, Tree.isText]; rfl

theorem isSome_writeItems? : (level : Nat) → (items : List Tree) →
    (layout.writeItems? level items).isSome = Tree.itemsAreText items
  | _, [] => rfl
  | level, t :: rest => by
    rw [writeItems?, Tree.itemsAreText, ← isSome_write? level t,
      ← isSome_writeItems? level rest]
    cases layout.write? level t with
    | none => rfl
    | some first => cases layout.writeItems? level rest <;> rfl

theorem isSome_writeFields? : (level : Nat) → (fields : List (Option String × Tree)) →
    (layout.writeFields? level fields).isSome = Tree.fieldsAreText fields
  | _, [] => rfl
  | level, (key, t) :: rest => by
    rw [writeFields?, Tree.fieldsAreText, ← isSome_write? level t,
      ← isSome_writeFields? level rest]
    cases key with
    | none => rfl
    | some key =>
      cases layout.write? level t with
      | none => rfl
      | some first => cases layout.writeFields? level rest <;> rfl

end

end Layout

/-- A tree is printed unless one of its strings is no text. -/
theorem isSome_printPretty? (t : Tree) : (printPretty? t).isSome = t.isText := by
  rw [printPretty?, Option.isSome_map, Layout.isSome_write?]

example : printPretty? (.record [("input", .text none), ("accepted", .bool true)]) = none := by
  decide

end Json

end SlideConverter

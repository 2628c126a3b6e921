import SlideConverter.Data.Sorted
import SlideConverter.Proofs.Data.Record
import SlideConverter.Proofs.Json.Printer
import SlideConverter.Proofs.Json.Reader

/-!
# Fields in order of their names

Putting the fields of every table in order changes nothing about what a tree says: it can be
written as before, and what stood for a record stands for it still.
-/

namespace SlideConverter.Tree

variable {t : Tree} {entries kept : List (String × Tree)} {fields : List Field}
  {forms : List (Tree → Prop)}

theorem Writable.isText (writable : t.Writable) : t.isText = true := by
  induction writable with
  | null | bool | integer | other | string => rfl
  | list items all ih =>
    rw [Tree.isText, itemsAreText_eq_all]
    exact List.all_eq_true.mpr ih
  | record entries all ih =>
    rw [isText_record]
    exact List.all_eq_true.mpr ih

/-- A field with what is in its value put in order. -/
def sortedValue (e : String × Tree) : String × Tree := (e.1, e.2.sorted)

theorem sortedItems_eq_map (items : List Tree) : sortedItems items = items.map sorted := by
  induction items with
  | nil => rfl
  | cons t rest ih => rw [sortedItems, ih, List.map_cons]

theorem exists_insertField (e : String × Tree) (entries : List (String × Tree)) :
    ∃ ordered : List (String × Tree),
      insertField (some e.1, e.2) (entries.map fun (key, value) => (some key, value)) =
        ordered.map (fun (key, value) => (some key, value)) ∧ ordered.Perm (e :: entries) := by
  induction entries with
  | nil => exact ⟨[e], rfl, .refl _⟩
  | cons first rest ih =>
    by_cases before : e.1 ≤ first.1
    · exact ⟨e :: first :: rest, if_pos before, .refl _⟩
    · obtain ⟨ordered, same, perm⟩ := ih
      refine ⟨first :: ordered, (if_neg before).trans ?_,
        (perm.cons first).trans (.swap e first rest)⟩
      rw [same, List.map_cons]

/-- A record in order holds the same fields. -/
theorem exists_sorted_record (entries : List (String × Tree)) : ∃ ordered,
    (record entries).sorted = record ordered ∧ ordered.Perm (entries.map sortedValue) := by
  have fields : ∃ ordered : List (String × Tree),
      sortedFields (entries.map fun (key, value) => (some key, value)) =
        ordered.map (fun (key, value) => (some key, value)) ∧
          ordered.Perm (entries.map sortedValue) := by
    induction entries with
    | nil => exact ⟨[], rfl, .nil⟩
    | cons e rest ih =>
      obtain ⟨others, same, perm⟩ := ih
      obtain ⟨ordered, inserted, reordered⟩ := exists_insertField (sortedValue e) others
      refine ⟨ordered, ?_, reordered.trans (perm.cons _)⟩
      rw [List.map_cons, sortedFields, same]
      exact inserted
  obtain ⟨ordered, same, perm⟩ := fields
  exact ⟨ordered, by rw [record, sorted, same]; rfl, perm⟩

theorem Writable.sorted (writable : t.Writable) : t.sorted.Writable := by
  induction writable with
  | null => exact .null
  | bool b => exact .bool b
  | integer n => exact .integer n
  | other written number => exact .other written number
  | string s => exact .string s
  | list items all ih =>
    rw [Tree.sorted, sortedItems_eq_map]
    exact writable_list_map ih
  | record entries all ih =>
    obtain ⟨ordered, same, perm⟩ := exists_sorted_record entries
    rw [same]
    refine .record ordered fun e there => ?_
    obtain ⟨e, within, rfl⟩ := List.mem_map.mp (perm.subset there)
    exact ih e within

/-! ## Forms -/

@[simp] theorem sorted_bool (b : Bool) : (Tree.bool b).sorted = .bool b := rfl

@[simp] theorem sorted_integer (n : Int) : (Tree.integer n).sorted = .integer n := rfl

@[simp] theorem sorted_text (s : Option String) : (Tree.text s).sorted = .text s := rfl

@[simp] theorem sorted_string (s : String) : (string s).sorted = string s := rfl

@[simp] theorem sorted_ofUInt64 (n : UInt64) : (ofUInt64 n).sorted = ofUInt64 n := rfl

@[simp] theorem sorted_option_string (value : Option String) :
    (option string value).sorted = option string value := by
  cases value <;> rfl

theorem Given.sorted (given : Given fields forms kept)
    (closed : ∀ form ∈ forms, ∀ t, form t → form t.sorted) :
    Given fields forms (kept.map sortedValue) := by
  induction given with
  | nil => exact .nil
  | there formed rest ih =>
    obtain ⟨first, others⟩ := List.forall_mem_cons.mp closed
    exact .there (first _ formed) (ih others)
  | absent optional null rest ih =>
    exact .absent optional null (ih (List.forall_mem_cons.mp closed).2)

/-- What stands for a record does so with its fields in order, if this holds of each field. -/
theorem IsRecord.sorted (formed : IsRecord fields forms t)
    (closed : ∀ form ∈ forms, ∀ t, form t → form t.sorted) : IsRecord fields forms t.sorted := by
  cases formed with
  | @mk kept others entries given unknown perm =>
    obtain ⟨ordered, same, reordered⟩ := exists_sorted_record entries
    rw [same]
    have moved := reordered.trans (perm.map sortedValue)
    rw [List.map_append] at moved
    refine .mk (given.sorted closed) ?_ moved
    rintro _ there
    obtain ⟨e, within, rfl⟩ := List.mem_map.mp there
    exact unknown e within

theorem IsListOf.sorted {α : Type} {form : α → Tree → Prop} {values : List α}
    (formed : IsListOf form values t) (closed : ∀ a t, form a t → form a t.sorted) :
    IsListOf form values t.sorted := by
  obtain ⟨each⟩ := formed
  rw [Tree.sorted, sortedItems_eq_map]
  exact .mk (List.forall₂_map_right_iff.mpr (each.imp closed))

end SlideConverter.Tree

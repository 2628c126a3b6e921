import SlideConverter.Data.Schema
import SlideConverter.Proofs.Data.Record
import SlideConverter.Proofs.Json.Reader

/-!
# Records that are read after their schemas

Where the trees of each field stand for its value, the trees of a record stand for the record. What
is read of a record is decided by the slots of its fields one after the other, so the induction is
on the columns.
-/

namespace SlideConverter

open SlideConverter.Tree

/-- A value is written in one of its forms, with strings and numbers that have a text, and it is
read from each of its forms. -/
structure ReadBack {α : Type} (tree : α → Tree) (ofTree? : Tree → Option α)
    (Form : α → Tree → Prop) (a : α) : Prop where
  own : Form a (tree a)
  writable : (tree a).Writable
  reads : ∀ t, Form a t → ofTree? t = some a

namespace FieldKind

variable {β : Type} {kind : FieldKind β} {b : β} {form : Tree → Prop} {write : β → Tree}
  {read : Tree → Option β} {Form : β → Tree → Prop}

/-- The trees of `form` stand for `b`, and a missing field does so too if null is one of them. -/
structure Stands (kind : FieldKind β) (b : β) (form : Tree → Prop) : Prop where
  own : form (kind.write b)
  writable : (kind.write b).Writable
  reads : ∀ t, form t → kind.read (some t) = some b
  absent : kind.absence ≠ .required → form .null → kind.read none = some b

theorem stands_required (back : ReadBack write read Form b) :
    (required write read).Stands b (Form b) where
  own := back.own
  writable := back.writable
  reads := back.reads
  absent optional := absurd rfl optional

/-- A value that is written in one way only. -/
theorem stands_only (write : β → Tree) (writable : (write b).Writable)
    (reads : read (write b) = some b) : (required write read).Stands b (· = write b) := by
  have back : ReadBack write read (fun b t => t = write b) b := by
    refine ⟨rfl, writable, ?_⟩
    rintro _ rfl
    exact reads
  exact stands_required back

theorem stands_bool (b : Bool) : bool.Stands b (· = .bool b) :=
  stands_only .bool (.bool b) (bool?_bool b)

theorem stands_string (s : String) : string.Stands s (· = .string s) :=
  stands_only .string (.string s) (string?_string s)

theorem stands_uint32 (n : UInt32) : uint32.Stands n (· = .integer n.toNat) :=
  stands_only (fun n : UInt32 => .integer n.toNat) (.integer _) (uint32?_integer n)

theorem stands_uint64 (n : UInt64) : uint64.Stands n (· = .ofUInt64 n) :=
  stands_only .ofUInt64 (.integer _) (uint64?_ofUInt64 n)

theorem stands_strings (items : List String) :
    (list .string string?).Stands items (· = .list (items.map .string)) :=
  stands_only (fun items : List String => .list (items.map .string))
    (writable_list_map fun s _ => .string s) (list?_map_string items)

theorem stands_list {values : List β} (back : ∀ b ∈ values, ReadBack write read Form b) :
    (list write read).Stands values (IsListOf Form values) where
  own := isListOf_map fun b there => (back b there).own
  writable := writable_list_map fun b there => (back b there).writable
  reads _ listed := listed.list? fun b there => (back b there).reads
  absent optional := absurd rfl optional

/-- A missing value is null. -/
theorem stands_nullable (absence : Absence) (write : β → Tree) (writable : ∀ b, (write b).Writable)
    (reads : ∀ b, read (write b) = some b) (proper : ∀ b, write b ≠ .null) (value : Option β) :
    (nullable absence write read).Stands value (· = Tree.option write value) := by
  refine ⟨rfl, writable_option writable value, ?_, ?_⟩
  · rintro _ rfl
    exact nullable?_option reads proper value
  · intro _ null
    cases value with
    | none => rfl
    | some b => exact absurd null.symm (proper b)

theorem stands_optionalString (value : Option String) :
    optionalString.Stands value (· = Tree.option .string value) :=
  stands_nullable .defaulted .string .string string?_string (fun _ => by simp [Tree.string]) value

/-- A field that is not null is there. -/
theorem stands_defaulted {default : β} (back : ReadBack write read Form b)
    (proper : ¬ Form b .null) : (defaulted default write read).Stands b (Form b) where
  own := back.own
  writable := back.writable
  reads := back.reads
  absent _ null := absurd null proper

end FieldKind

namespace Columns

variable {α γ : Type} {a : α} {columns : Columns α γ} {forms : List (Tree → Prop)}
  {entries kept : List (String × Tree)}

/-- A form for each field of `a`. -/
inductive Forms (a : α) : {γ : Type} → Columns α γ → List (Tree → Prop) → Prop
  | done : Forms a .done []
  | field {β γ : Type} {name : String} {get : α → β} {kind : FieldKind β} {rest : Columns α γ}
      {form : Tree → Prop} {forms : List (Tree → Prop)} (stands : kind.Stands (get a) form)
      (others : Forms a rest forms) : Forms a (.field name get kind rest) (form :: forms)

/-- What is found among the entries under each name is read as the field of `a`. -/
inductive Finds (entries : List (String × Tree)) (a : α) : {γ : Type} → Columns α γ → Prop
  | done : Finds entries a .done
  | field {β γ : Type} {name : String} {get : α → β} {kind : FieldKind β} {rest : Columns α γ}
      (found : (slot? entries ⟨name, kind.absence⟩).bind kind.read = some (get a))
      (others : Finds entries a rest) : Finds entries a (.field name get kind rest)

theorem map_fst_entries (a : α) (columns : Columns α γ) :
    (columns.entries a).map Prod.fst = columns.fields.map (·.name) := by
  induction columns with
  | done => rfl
  | field name get kind rest ih => rw [entries, fields, List.map_cons, List.map_cons, ih]

theorem Forms.given (known : columns.Forms a forms) :
    Given columns.fields forms (columns.entries a) := by
  induction known with
  | done => exact .nil
  | field stands others ih => exact .there stands.own ih

theorem Forms.writable_entries (known : columns.Forms a forms) :
    ∀ e ∈ columns.entries a, e.2.Writable := by
  induction known with
  | done => simp [Columns.entries]
  | field stands others ih => exact List.forall_mem_cons.mpr ⟨stands.writable, ih⟩

/-- The slots of the fields make the record that has the fields. -/
theorem Finds.read?_slots (finds : columns.Finds entries a) (make : γ) :
    (columns.fields.mapM (slot? entries)).bind (columns.read? make) =
      some (columns.build a make) := by
  induction finds with
  | done => rfl
  | @field β γ name get kind rest found others ih =>
    obtain ⟨slot, there, read⟩ := Option.bind_eq_some_iff.mp found
    obtain ⟨slots, later, reads⟩ := Option.bind_eq_some_iff.mp (ih (make (get a)))
    rw [fields, List.mapM_cons, there, later]
    simp [read?, build, read, reads]

/-- What stands among the entries in the forms of the fields of `a` is found there. -/
theorem Forms.finds (known : columns.Forms a forms) (given : Given columns.fields forms kept)
    (distinct : (columns.fields.map (·.name)).Nodup)
    (same : ∀ field ∈ columns.fields, entries.filter (·.1 == field.name) =
      kept.filter (·.1 == field.name)) : columns.Finds entries a := by
  induction known generalizing kept with
  | done => exact .done
  | @field β γ name get kind rest form forms stands others ih =>
    rw [fields, List.map_cons, List.nodup_cons] at distinct
    obtain ⟨first, later⟩ := List.forall_mem_cons.mp same
    cases given with
    | @there _ _ _ _ kept t formed given =>
      have absent : name ∉ kept.map Prod.fst := fun there =>
        distinct.1 (given.names.subset there)
      refine .field ?_ (ih given distinct.2 fun f there => ?_)
      · have slot : slot? entries ⟨name, kind.absence⟩ = some (some t) := by
          rw [slot?, single?, first, List.filter_cons, if_pos (beq_self_eq_true _),
            filter_of_not_mem absent]
        rw [slot, Option.bind_some, stands.reads t formed]
      · have other : ¬ (name == f.name) = true := by
          intro equal
          exact distinct.1 (List.mem_map.mpr ⟨f, there, (eq_of_beq equal).symm⟩)
        rw [later f there, List.filter_cons, if_neg other]
    | absent optional null given =>
      have absent : name ∉ kept.map Prod.fst := fun there =>
        distinct.1 (given.names.subset there)
      refine .field ?_ (ih given distinct.2 later)
      have slot : slot? entries ⟨name, kind.absence⟩ = some none := by
        rw [slot?, single?, first, filter_of_not_mem absent]
        exact if_neg optional
      rw [slot, Option.bind_some, stands.absent optional null]

end Columns

namespace Schema

variable {α : Type} {s : Schema α} {a : α} {forms : List (Tree → Prop)}
  {entries : List (String × Tree)}

theorem nodup_entries (s : Schema α) (a : α) : ((s.columns.entries a).map Prod.fst).Nodup := by
  rw [Columns.map_fst_entries]
  exact s.distinct

theorem ofTree?_record (surplus : Bool) (finds : s.columns.Finds entries a) :
    s.ofTree? surplus (.record entries) = some a := by
  rw [ofTree?, slots?_record]
  exact (finds.read?_slots s.make).trans (congrArg some (s.rebuilds a))

/-- A record is read back if its fields are. -/
theorem readBack {Form : α → Tree → Prop} (surplus : Bool) (known : s.columns.Forms a forms)
    (same : Form a = IsRecord s.fields forms) :
    ReadBack s.tree (s.ofTree? surplus) Form a := by
  refine ⟨?_, .record _ known.writable_entries, ?_⟩
  · rw [same]
    exact known.given.isRecord
  · intro t form
    rw [same] at form
    cases form with
    | @mk kept others entries given unknown perm =>
      apply ofTree?_record
      apply known.finds given s.distinct
      intro field there
      apply filter_eq_of_perm perm (given.names.nodup s.distinct)
      intro other
      obtain ⟨e, within, equal⟩ := List.mem_map.mp other
      exact unknown e within (equal ▸ List.mem_map_of_mem there)

end Schema

end SlideConverter

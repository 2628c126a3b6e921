import Mathlib.Data.List.Nodup
import SlideConverter.Data.Record

/-!
# Records that are read back

Where the fields of a record stand does not matter, nor what stands among them under other names,
and a field that may be missing may be left out where it would be null. Numbers and lists in a
field are read back from their trees.
-/

namespace SlideConverter

namespace Tree

variable {entries kept others : List (String × Tree)} {name : String} {t : Tree}
  {field : Field} {fields : List Field} {form : Tree → Prop} {forms : List (Tree → Prop)}
  {slot : Option Tree}

/-! ## Values -/

theorem natural?_integer {n : Nat} (bits : Nat) (small : n < Nat.pow 2 bits) :
    (integer n).natural? bits = some n := by
  have fits : (0 : Int) ≤ n ∧ (n : Int) ≤ Nat.pow 2 bits - 1 := by omega
  rw [natural?, integer?, if_pos fits]
  simp

theorem uint64?_ofUInt64 (n : UInt64) : (ofUInt64 n).uint64? = some n := by
  rw [uint64?, ofUInt64, natural?_integer 64 n.toNat_lt]
  simp

theorem uint32?_integer (n : UInt32) : (integer n.toNat).uint32? = some n := by
  rw [uint32?, natural?_integer 32 n.toNat_lt]
  simp

theorem int32?_integer (n : Int32) : (integer n.toInt).int32? = some n := by
  have fits : -2147483648 ≤ n.toInt ∧ n.toInt ≤ 2147483647 := by
    have least := n.le_toInt
    have most := n.toInt_lt
    omega
  rw [int32?, integer?, if_pos fits]
  simp

theorem bool?_bool (b : Bool) : (bool b).bool? = some b := rfl

theorem string?_string (s : String) : (string s).string? = some s := rfl

theorem list?_map_string (items : List String) :
    (Tree.list (items.map .string)).list? string? = some items := by
  rw [list?, List.mapM_map]
  exact (List.mapM_pure (m := Option) (f := id)).trans (congrArg some (List.map_id items))

theorem nullable?_option {α : Type} {write : α → Tree} {read : Tree → Option α}
    (reads : ∀ a, read (write a) = some a) (proper : ∀ a, write a ≠ .null) (value : Option α) :
    (option write value).nullable? read = some value := by
  cases value with
  | none => rfl
  | some a =>
    rw [option, nullable?]
    · rw [reads, Option.map_some]
    · exact proper a

/-! ## Slots -/

theorem slots?_record (surplus : Bool) (fields : List Field) (entries : List (String × Tree)) :
    (record entries).slots? surplus fields = fields.mapM (slot? entries) := by
  have keys : entries.mapM (fun e => (some e : Option (String × Tree))) = some entries :=
    (List.mapM_pure (m := Option) (f := id)).trans (congrArg some (List.map_id entries))
  rw [record, slots?, List.mapM_map]
  exact congrArg (Option.bind · fun entries => fields.mapM (slot? entries)) keys

theorem filter_of_not_mem (missing : name ∉ entries.map Prod.fst) :
    entries.filter (·.1 == name) = [] := by
  rw [List.filter_eq_nil_iff]
  intro e there same
  obtain rfl := eq_of_beq same
  exact missing (List.mem_map_of_mem there)

/-- Where no field is given twice, one that is given is the only one of its name. -/
theorem filter_of_mem (distinct : (entries.map Prod.fst).Nodup) (there : (name, t) ∈ entries) :
    entries.filter (·.1 == name) = [(name, t)] := by
  induction entries with
  | nil => cases there
  | cons e entries ih =>
    rw [List.map_cons, List.nodup_cons] at distinct
    obtain ⟨absent, others⟩ := distinct
    rw [List.filter_cons]
    rcases List.mem_cons.mp there with rfl | within
    · rw [if_pos (beq_self_eq_true name), filter_of_not_mem absent]
    · have other : ¬ (e.1 == name) = true := by
        intro same
        obtain rfl := eq_of_beq same
        exact absent (List.mem_map.mpr ⟨_, within, rfl⟩)
      rw [if_neg other, ih others within]

theorem slot?_of_mem (distinct : (entries.map Prod.fst).Nodup) (there : (name, t) ∈ entries)
    (absence : Absence) : slot? entries { name, absence } = some (some t) := by
  rw [slot?, single?, filter_of_mem distinct there]

theorem slot?_of_not_mem (missing : name ∉ entries.map Prod.fst) :
    slot? entries { name, absence := .defaulted } = some none := by
  rw [slot?, single?, filter_of_not_mem missing]
  rfl

/-! ## Forms -/

/-- Each field with a value of its form. One that need not be there may be left out if null is of
its form. -/
inductive Given : List Field → List (Tree → Prop) → List (String × Tree) → Prop
  | nil : Given [] [] []
  | there {field : Field} {fields : List Field} {form : Tree → Prop} {forms : List (Tree → Prop)}
      {kept : List (String × Tree)} {t : Tree} (formed : form t) (rest : Given fields forms kept) :
    Given (field :: fields) (form :: forms) ((field.name, t) :: kept)
  | absent {field : Field} {fields : List Field} {form : Tree → Prop} {forms : List (Tree → Prop)}
      {kept : List (String × Tree)} (optional : field.absence ≠ .required) (null : form .null)
      (rest : Given fields forms kept) : Given (field :: fields) (form :: forms) kept

/-- A table with the fields, each of its form, in any order and among any others. -/
inductive IsRecord (fields : List Field) (forms : List (Tree → Prop)) : Tree → Prop
  | mk {kept others entries : List (String × Tree)} (given : Given fields forms kept)
      (unknown : ∀ e ∈ others, e.1 ∉ fields.map (·.name)) (perm : entries.Perm (kept ++ others)) :
    IsRecord fields forms (.record entries)

/-- A list of as many items as there are values, each of the form of its value. -/
inductive IsListOf {α : Type} (form : α → Tree → Prop) (values : List α) : Tree → Prop
  | mk {items : List Tree} (each : List.Forall₂ form values items) :
    IsListOf form values (.list items)

theorem isListOf_map {α : Type} {form : α → Tree → Prop} {write : α → Tree} {values : List α}
    (own : ∀ a ∈ values, form a (write a)) : IsListOf form values (.list (values.map write)) :=
  .mk (List.forall₂_map_right_iff.mpr (List.forall₂_same.mpr own))

theorem IsListOf.list? {α : Type} {form : α → Tree → Prop} {values : List α}
    {read : Tree → Option α} (listed : IsListOf form values t)
    (reads : ∀ a ∈ values, ∀ t, form a t → read t = some a) : t.list? read = some values := by
  obtain ⟨each⟩ := listed
  rw [Tree.list?]
  induction each with
  | nil => rfl
  | cons first _ ih =>
    obtain ⟨here, others⟩ := List.forall_mem_cons.mp reads
    rw [List.mapM_cons, here _ first, ih others]
    rfl

/-- What is given once, and nothing else, is a record. -/
theorem Given.isRecord (given : Given fields forms entries) :
    IsRecord fields forms (.record entries) := by
  have none : ∀ e ∈ ([] : List (String × Tree)), e.1 ∉ fields.map (·.name) := by simp
  exact .mk given none (by simp)

theorem not_isRecord_null (fields : List Field) (forms : List (Tree → Prop)) :
    ¬ IsRecord fields forms .null := by
  generalize same : Tree.null = t
  rintro ⟨⟩
  cases same

theorem Given.names (given : Given fields forms kept) :
    (kept.map Prod.fst).Sublist (fields.map (·.name)) := by
  induction given with
  | nil => exact .slnil
  | there _ _ ih => exact ih.cons_cons _
  | absent _ _ _ ih => exact ih.cons _

/-- Fields under other names change nothing about what is found under a known one. -/
theorem filter_eq_of_perm (perm : entries.Perm (kept ++ others))
    (distinct : (kept.map Prod.fst).Nodup) (unknown : name ∉ others.map Prod.fst) :
    entries.filter (·.1 == name) = kept.filter (·.1 == name) := by
  have found := perm.filter (·.1 == name)
  rw [List.filter_append, filter_of_not_mem unknown, List.append_nil] at found
  by_cases there : name ∈ kept.map Prod.fst
  · obtain ⟨⟨_, t⟩, within, rfl⟩ := List.mem_map.mp there
    rw [filter_of_mem distinct within] at found ⊢
    exact List.perm_singleton.mp found
  · rw [filter_of_not_mem there] at found ⊢
    exact found.eq_nil

end Tree

end SlideConverter

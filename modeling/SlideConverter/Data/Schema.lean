import SlideConverter.Data.Record

/-!
# Schemas of records

A record type is described once, field by field: the name of a field, where it is in a
value, and how it is written and read. Trees are made and read after that description.
-/

namespace SlideConverter

/-- How the values of a field are written, and how they are read from what is found of it. -/
structure FieldKind (β : Type) where
  absence : Absence := .required
  write : β → Tree
  read : Option Tree → Option β

namespace FieldKind

variable {β : Type}

def required (write : β → Tree) (read : Tree → Option β) : FieldKind β where
  write
  read slot := slot.bind read

/-- Null for no value, which is also what a missing field stands for. -/
def nullable (absence : Absence) (write : β → Tree) (read : Tree → Option β) :
    FieldKind (Option β) where
  absence
  write := Tree.option write
  read
    | none => some none
    | some t => t.nullable? read

/-- A missing field has the default. -/
def defaulted (default : β) (write : β → Tree) (read : Tree → Option β) : FieldKind β where
  absence := .defaulted
  write
  read
    | none => some default
    | some t => read t

def bool : FieldKind Bool := required .bool Tree.bool?

def string : FieldKind String := required .string Tree.string?

def uint32 : FieldKind UInt32 := required (.integer ·.toNat) Tree.uint32?

def uint64 : FieldKind UInt64 := required .ofUInt64 Tree.uint64?

def list (write : β → Tree) (read : Tree → Option β) : FieldKind (List β) :=
  required (fun values => .list (values.map write)) (Tree.list? read)

def optionalString : FieldKind (Option String) := nullable .defaulted .string Tree.string?

end FieldKind

/-- The fields of a record in order; a function of type `γ` makes a record of them. -/
inductive Columns (α : Type) : Type → Type 1
  | done : Columns α α
  | field {β γ : Type} (name : String) (get : α → β) (kind : FieldKind β) (rest : Columns α γ) :
    Columns α (β → γ)

namespace Columns

variable {α : Type}

def fields : {γ : Type} → Columns α γ → List Field
  | _, .done => []
  | _, .field name _ kind rest => { name, absence := kind.absence } :: rest.fields

def entries (a : α) : {γ : Type} → Columns α γ → List (String × Tree)
  | _, .done => []
  | _, .field name get kind rest => (name, kind.write (get a)) :: rest.entries a

/-- What `make` makes of the slots of the fields. -/
def read? : {γ : Type} → Columns α γ → γ → List (Option Tree) → Option α
  | _, .done, whole, [] => some whole
  | _, .field _ _ kind rest, make, slot :: slots => do rest.read? (make (← kind.read slot)) slots
  | _, _, _, _ => none

/-- What `make` makes of the fields of `a`. -/
def build (a : α) : {γ : Type} → Columns α γ → γ → α
  | _, .done, whole => whole
  | _, .field _ get _ rest, make => rest.build a (make (get a))

end Columns

/-- All fields of a record type, each under a name of its own, with what makes a record of them. -/
structure Schema (α : Type) where
  {Maker : Type}
  make : Maker
  columns : Columns α Maker
  rebuilds : ∀ a, columns.build a make = a := by exact fun _ => rfl
  distinct : (columns.fields.map (·.name)).Nodup := by decide

namespace Schema

variable {α : Type} (s : Schema α)

def fields : List Field := s.columns.fields

def tree (a : α) : Tree := .record (s.columns.entries a)

def ofTree? (surplus : Bool) (t : Tree) : Option α := do
  s.columns.read? s.make (← t.slots? surplus s.fields)

end Schema

end SlideConverter

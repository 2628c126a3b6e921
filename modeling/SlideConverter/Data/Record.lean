import SlideConverter.Data.Tree

/-!
# Records and variants in trees

A record is a table from the names of its fields, or the list of its fields' values
in order. Fields of other names are passed over; a field given twice is an error.
A variant is its name, or a table that has the name as its only key.
-/

namespace SlideConverter

/-- What a field may do when it is not there. -/
inductive Absence where
  | required
  /-- It may be missing from a table, but not from a list. -/
  | optional
  /-- It may be missing from a table, and from the end of a list. -/
  | defaulted
deriving DecidableEq

structure Field where
  name : String
  absence : Absence := .required

namespace Tree

/-- The value of the field `name`; the outer `none` if it is given twice. -/
def single? (fields : List (String × Tree)) (name : String) : Option (Option Tree) :=
  match fields.filter (·.1 == name) with
  | [] => some none
  | [(_, value)] => some (some value)
  | _ => none

def slot? (fields : List (String × Tree)) (field : Field) : Option (Option Tree) :=
  match single? fields field.name with
  | some none => if field.absence = .required then none else some none
  | found => found

/-- The fields' values in order; `surplus` says whether a list may go on behind the last field. -/
def slots? (surplus : Bool) (fields : List Field) : Tree → Option (List (Option Tree))
  | .table entries => do
    let entries ← entries.mapM fun (key, value) => key.map (·, value)
    fields.mapM (slot? entries)
  | .list items =>
    if items.length > fields.length then
      if surplus then some ((items.take fields.length).map some) else none
    else
      let missing := fields.drop items.length
      if missing.all (·.absence = .defaulted) then
        some (items.map some ++ missing.map fun _ => none)
      else none
  | _ => none

/-- The name of a variant with what comes with it. -/
def variant? : Tree → Option (String × Option Tree)
  | .text (some name) => some (name, none)
  | .table [(some name, value)] => some (name, some value)
  | _ => none

/-- The name of a variant that comes alone. -/
def unit? (t : Tree) : Option String :=
  match t.variant? with
  | some (name, none) => some name
  | some (name, some .null) => some name
  | _ => none

end Tree

end SlideConverter

/-!
# Trees of data

What a JSON text or a TOML document holds once its notation is gone. Numbers that
are no integers, and dates, are kept as they are written, because nothing in this
library reads them.
-/

namespace SlideConverter

inductive Tree where
  | null
  | bool (value : Bool)
  | integer (value : Int)
  | other (written : String)
  /-- `none` is a string of the notation that is no text, such as half a surrogate pair. -/
  | text (value : Option String)
  | list (items : List Tree)
  | table (fields : List (Option String × Tree))

namespace Tree

def string (s : String) : Tree := .text (some s)

def ofUInt64 (n : UInt64) : Tree := .integer n.toNat

/-- A table whose keys are all text. -/
def record (fields : List (String × Tree)) : Tree :=
  .table (fields.map fun (key, value) => (some key, value))

def option {α : Type} (write : α → Tree) : Option α → Tree
  | none => .null
  | some a => write a

def bool? : Tree → Option Bool
  | .bool b => some b
  | _ => none

def string? : Tree → Option String
  | .text s => s
  | _ => none

/-- A whole number of `[low, high]`. -/
def integer? (low high : Int) : Tree → Option Int
  | .integer n => if low ≤ n ∧ n ≤ high then some n else none
  | _ => none

def natural? (bits : Nat) (t : Tree) : Option Nat :=
  (t.integer? 0 (Nat.pow 2 bits - 1)).map Int.toNat

def uint64? (t : Tree) : Option UInt64 := (t.natural? 64).map UInt64.ofNat

def uint32? (t : Tree) : Option UInt32 := (t.natural? 32).map UInt32.ofNat

def int32? (t : Tree) : Option Int32 := (t.integer? (-2147483648) 2147483647).map Int32.ofInt

def list? {α : Type} (read : Tree → Option α) : Tree → Option (List α)
  | .list items => items.mapM read
  | _ => none

def nullable? {α : Type} (read : Tree → Option α) : Tree → Option (Option α)
  | .null => some none
  | t => (read t).map some

end Tree

end SlideConverter

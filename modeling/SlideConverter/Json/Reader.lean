import SlideConverter.Data.Tree
import SlideConverter.Json.Token

/-!
# Reading JSON text

The reader takes one token after the other and keeps the containers that are still
open on a stack, so that a text may nest to any depth.
-/

namespace SlideConverter.Json

/-- Cuts off a longest stretch of digits. -/
def digits (s : List Char) : List Char × List Char :=
  (s.takeWhile (·.isDigit), s.dropWhile (·.isDigit))

/-- A fraction and an exponent may follow the integer part; says whether any did. -/
def numberTail? (s : List Char) : Option Bool :=
  let exponent? (s : List Char) (fraction : Bool) : Option Bool :=
    match s with
    | [] => some fraction
    | e :: rest =>
      if e = 'e' ∨ e = 'E' then
        let unsigned := match rest with
          | '+' :: r => r
          | '-' :: r => r
          | r => r
        let (power, rest) := digits unsigned
        if power.isEmpty || !rest.isEmpty then none else some true
      else none
  match s with
  | '.' :: rest =>
    let (fraction, rest) := digits rest
    if fraction.isEmpty then none else exponent? rest true
  | _ => exponent? s false

def valueOfDigits (s : List Char) : Nat := s.foldl (fun n c => n * 10 + (c.toNat - '0'.toNat)) 0

/-- A number without sign: no zero in front of other digits. Minus zero is no integer. -/
def number? (written : List Char) : Option Tree :=
  let (negative, unsigned) := match written with
    | '-' :: rest => (true, rest)
    | rest => (false, rest)
  let (whole, rest) := digits unsigned
  if whole.isEmpty || (whole.length > 1 && whole.head? == some '0') then none
  else
    match numberTail? rest with
    | none => none
    | some true => some (.other (String.ofList written))
    | some false =>
      let n := valueOfDigits whole
      if negative && n == 0 then some (.other (String.ofList written))
      else some (.integer (if negative then -(n : Int) else n))

def word? (written : List Char) : Option Tree :=
  if written = "null".toList then some .null
  else if written = "true".toList then some (.bool true)
  else if written = "false".toList then some (.bool false)
  else number? written

/-- A container that is still open, its contents in reverse. -/
inductive Frame where
  | list (items : List Tree)
  | table (fields : List (Option String × Tree)) (key : Option String)

/-- What has to come next. -/
inductive Position where
  /-- A value, or the end of the list that has just been opened. -/
  | value (orEnd : Bool)
  | afterValue
  | key (fields : List (Option String × Tree)) (orEnd : Bool)
  | colon (fields : List (Option String × Tree)) (key : Option String)
  | complete (t : Tree)

structure State where
  position : Position
  stack : List Frame

/-- A value has been read: put it into the innermost open container. -/
def put (t : Tree) : List Frame → State
  | [] => ⟨.complete t, []⟩
  | .list items :: rest => ⟨.afterValue, .list (t :: items) :: rest⟩
  | .table fields key :: rest => ⟨.afterValue, .table ((key, t) :: fields) key :: rest⟩

def take (s : State) (token : Token) : Option State :=
  match s.position, token with
  | .value _, .word w => (word? w).map (put · s.stack)
  | .value _, .string text => some (put (.text text) s.stack)
  | .value _, .openList => some ⟨.value true, .list [] :: s.stack⟩
  | .value _, .openTable => some ⟨.key [] true, s.stack⟩
  | .value true, .closeList =>
    match s.stack with
    | .list items :: rest => some (put (.list items.reverse) rest)
    | _ => none
  | .afterValue, .comma =>
    match s.stack with
    | .list items :: rest => some ⟨.value false, .list items :: rest⟩
    | .table fields _ :: rest => some ⟨.key fields false, rest⟩
    | [] => none
  | .afterValue, .closeList =>
    match s.stack with
    | .list items :: rest => some (put (.list items.reverse) rest)
    | _ => none
  | .afterValue, .closeTable =>
    match s.stack with
    | .table fields _ :: rest => some (put (.table fields.reverse) rest)
    | _ => none
  | .key fields _, .string text => some ⟨.colon fields text, s.stack⟩
  | .key _ true, .closeTable => some (put (.table []) s.stack)
  | .colon fields key, .colon => some ⟨.value false, .table fields key :: s.stack⟩
  | _, _ => none

def takeAll : State → List Token → Option State
  | s, [] => some s
  | s, token :: rest => (take s token).bind (takeAll · rest)

def ofTokens? (tokens : List Token) : Option Tree :=
  match takeAll ⟨.value false, []⟩ tokens with
  | some ⟨.complete t, _⟩ => some t
  | _ => none

def parse? (text : String) : Option Tree := (tokens? text.toList).bind ofTokens?

end SlideConverter.Json

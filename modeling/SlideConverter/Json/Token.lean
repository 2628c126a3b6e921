/-!
# JSON tokens

Text is cut into tokens one character at a time. A string is collected as code
units first, because two escapes may together write one character. A word is a
longest stretch of the characters that numbers and names are made of.
-/

namespace SlideConverter.Json

inductive Token where
  | openList
  | closeList
  | openTable
  | closeTable
  | colon
  | comma
  /-- `none` for a string with half a surrogate pair in it. -/
  | string (text : Option String)
  | word (written : List Char)
deriving DecidableEq

/-- Characters from code units, where two halves of a surrogate pair are one character. -/
def charsOfUnits : List Nat → Option (List Char)
  | [] => some []
  | [u] => if 0xD800 ≤ u ∧ u ≤ 0xDFFF then none else some [Char.ofNat u]
  | u :: v :: rest =>
    if 0xD800 ≤ u ∧ u ≤ 0xDBFF then
      if 0xDC00 ≤ v ∧ v ≤ 0xDFFF then
        (charsOfUnits rest).map (Char.ofNat (0x10000 + (u - 0xD800) * 0x400 + (v - 0xDC00)) :: ·)
      else none
    else if 0xDC00 ≤ u ∧ u ≤ 0xDFFF then none
    else (charsOfUnits (v :: rest)).map (Char.ofNat u :: ·)

/-- Where the reader is; units and characters are in reverse. -/
inductive Mode where
  | between
  | word (written : List Char)
  | quoted (units : List Nat)
  | escape (units : List Nat)
  | hex (units : List Nat) (owed : Nat) (value : Nat)

def isWordChar (c : Char) : Bool := c.isAlphanum || c = '+' || c = '-' || c = '.'

def hexValue? (c : Char) : Option Nat :=
  if '0' ≤ c ∧ c ≤ '9' then some (c.toNat - '0'.toNat)
  else if 'a' ≤ c ∧ c ≤ 'f' then some (c.toNat - 'a'.toNat + 10)
  else if 'A' ≤ c ∧ c ≤ 'F' then some (c.toNat - 'A'.toNat + 10)
  else none

def escapedUnit? (c : Char) : Option Nat :=
  match c with
  | '"' => some 0x22
  | '\\' => some 0x5C
  | '/' => some 0x2F
  | 'b' => some 0x08
  | 'f' => some 0x0C
  | 'n' => some 0x0A
  | 'r' => some 0x0D
  | 't' => some 0x09
  | _ => none

/-- A character that begins something: the token it is, if any, and how to go on. -/
def enter (c : Char) : Option (List Token × Mode) :=
  match c with
  | '[' => some ([.openList], .between)
  | ']' => some ([.closeList], .between)
  | '\x7b' => some ([.openTable], .between)
  | '\x7d' => some ([.closeTable], .between)
  | ':' => some ([.colon], .between)
  | ',' => some ([.comma], .between)
  | '"' => some ([], .quoted [])
  | ' ' | '\t' | '\n' | '\r' => some ([], .between)
  | c => if isWordChar c then some ([], .word [c]) else none

def advance (mode : Mode) (c : Char) : Option (List Token × Mode) :=
  match mode with
  | .between => enter c
  | .word w =>
    if isWordChar c then some ([], .word (c :: w))
    else (enter c).map fun (tokens, mode) => (.word w.reverse :: tokens, mode)
  | .quoted units =>
    if c = '"' then
      some ([.string ((charsOfUnits units.reverse).map String.ofList)], .between)
    else if c = '\\' then some ([], .escape units)
    else if c.toNat < 0x20 then none
    else some ([], .quoted (c.toNat :: units))
  | .escape units =>
    if c = 'u' then some ([], .hex units 4 0)
    else (escapedUnit? c).map fun u => ([], .quoted (u :: units))
  | .hex units owed value =>
    (hexValue? c).map fun d =>
      let value := value * 16 + d
      if owed ≤ 1 then ([], .quoted (value :: units)) else ([], .hex units (owed - 1) value)

def scan : Mode → List Char → Option (List Token)
  | .between, [] => some []
  | .word w, [] => some [.word w.reverse]
  | _, [] => none
  | mode, c :: rest =>
    match advance mode c with
    | none => none
    | some (tokens, mode) => (scan mode rest).map (tokens ++ ·)

def tokens? (text : List Char) : Option (List Token) := scan .between text

end SlideConverter.Json

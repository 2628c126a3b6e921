import SlideConverter.Toml.Document
import SlideConverter.Toml.Scalar
import SlideConverter.Toml.Token

/-!
# Reading TOML documents

The reader takes one token after the other. Lists and tables in braces that are still
open are kept on a stack; nothing nests deeper than `depthLimit`. Newlines count
between the items of lists and of tables in braces as little as blanks do.
-/

namespace SlideConverter.Toml

def depthLimit : Nat := 80

/-- What a key is part of. -/
inductive KeyPlace where
  | tableHeader
  | elementHeader
  | statement
  | brace
deriving DecidableEq

/-- A list or a table in braces that is still open; items are in reverse. -/
inductive Frame where
  | list (items : List Tree)
  | brace (entries : Entries) (key : List String)

/-- What has to come next. Parts of keys are in reverse. -/
inductive Position where
  | start
  /-- Behind one bracket at the start of a line. -/
  | bracket
  | keyPart (place : KeyPlace) (path : List String)
  | afterKeyPart (place : KeyPlace) (path : List String)
  /-- Behind the first of two closing brackets. -/
  | secondBracket (path : List String)
  | value
  /-- Where the next item of a list may begin or the list may end. -/
  | item
  /-- Where the next field of a table in braces may begin or the table may end. -/
  | field
  | scalar (written : List Char)
  /-- Behind a blank that may stand between a date and a time. -/
  | afterDate (written : List Char)
  | afterItem
  | lineEnd

structure State where
  position : Position
  root : Entries
  /-- The path of the table that statements go to, and whether one is that of a list's element. -/
  current : List String
  /-- The key that the value being read is for. -/
  key : List String
  stack : List Frame

def isKeyChar (c : Char) : Bool := c.isAlphanum || c = '-' || c = '_'

/-- The part of a key that a token is. -/
def keyOf? : Token → Option String
  | .word w => if w.all isKeyChar then some (String.ofList w) else none
  | .string false text => some text
  | _ => none

/-- A value is complete: it goes into the innermost open container or to its statement's key. -/
def put (s : State) (t : Tree) : Option State :=
  match s.stack with
  | .list items :: rest =>
    some { s with position := .afterItem, stack := .list (t :: items) :: rest }
  | .brace entries key :: rest =>
    (insert t false .header key entries).map fun entries =>
      { s with position := .afterItem, stack := .brace entries [] :: rest }
  | [] =>
    (within (insert t false .header s.key) s.current s.root).map fun root =>
      { s with position := .lineEnd, root, key := [] }

def push (s : State) (frame : Frame) (position : Position) : Option State :=
  if s.stack.length < depthLimit then some { s with position, stack := frame :: s.stack } else none

def closeList (s : State) : Option State :=
  match s.stack with
  | .list items :: rest => put { s with stack := rest } (.list items.reverse)
  | _ => none

def closeBrace (s : State) : Option State :=
  match s.stack with
  | .brace entries _ :: rest => put { s with stack := rest } (.table (entryTrees entries))
  | _ => none

def takeAfterItem (s : State) (token : Token) : Option State :=
  match s.stack, token with
  | _, .blank _ | _, .newline => some s
  | .list _ :: _, .comma => some { s with position := .item }
  | .brace _ _ :: _, .comma => some { s with position := .field }
  | .list _ :: _, .closeBracket => closeList s
  | .brace _ _ :: _, .closeBrace => closeBrace s
  | _, _ => none

def takeLineEnd (s : State) (token : Token) : Option State :=
  match token with
  | .blank _ => some s
  | .newline => some { s with position := .start }
  | _ => none

/-- A token behind a complete value. -/
def takeAfterValue (s : State) (token : Token) : Option State :=
  match s.position with
  | .lineEnd => takeLineEnd s token
  | _ => takeAfterItem s token

/-- The scalar has ended; the token is what follows it. -/
def endScalar (s : State) (written : List Char) (token : Token) : Option State :=
  ((scalar? written).bind (put s)).bind (takeAfterValue · token)

def takeValue (s : State) (token : Token) : Option State :=
  match token with
  | .blank _ => some s
  | .string _ text => put s (.string text)
  | .word w => some { s with position := .scalar w }
  | .openBracket => push s (.list []) .item
  | .openBrace => push s (.brace [] []) .field
  | _ => none

def takeKeyPart (s : State) (place : KeyPlace) (path : List String) (token : Token) :
    Option State :=
  match token with
  | .blank _ => some s
  | token => (keyOf? token).map fun k => { s with position := .afterKeyPart place (k :: path) }

/-- The key of a field is complete. -/
def setFieldKey (s : State) (path : List String) : Option State :=
  match s.stack with
  | .brace entries _ :: rest =>
    some { s with position := .value, stack := .brace entries path.reverse :: rest }
  | _ => none

/-- Open the table that a header names. -/
def header (s : State) (change : String → Entries → Option Entries) (path : List String) :
    Option State :=
  match path with
  | [] => none
  | key :: outer =>
    (within (change key) outer.reverse s.root).map fun root =>
      { s with position := .lineEnd, root, current := path.reverse }

def takeAfterKeyPart (s : State) (place : KeyPlace) (path : List String) (token : Token) :
    Option State :=
  match place, token with
  | _, .blank _ => some s
  | _, .dot => some { s with position := .keyPart place path }
  | .tableHeader, .closeBracket => header s openTable path
  | .elementHeader, .closeBracket => some { s with position := .secondBracket path }
  | .statement, .equals => some { s with position := .value, key := path.reverse }
  | .brace, .equals => setFieldKey s path
  | _, _ => none

def take (s : State) (token : Token) : Option State :=
  match s.position with
  | .start =>
    match token with
    | .newline => some s
    | .openBracket => some { s with position := .bracket }
    | token => takeKeyPart s .statement [] token
  | .bracket =>
    match token with
    | .openBracket => some { s with position := .keyPart .elementHeader [] }
    | .blank _ => some { s with position := .keyPart .tableHeader [] }
    | token => takeKeyPart s .tableHeader [] token
  | .keyPart place path => takeKeyPart s place path token
  | .afterKeyPart place path => takeAfterKeyPart s place path token
  | .secondBracket path =>
    match token with
    | .closeBracket => header s openElement path
    | _ => none
  | .value => takeValue s token
  | .item =>
    match token with
    | .newline => some s
    | .closeBracket => closeList s
    | token => takeValue s token
  | .field =>
    match token with
    | .newline => some s
    | .closeBrace => closeBrace s
    | token => takeKeyPart s .brace [] token
  | .scalar written =>
    match token with
    | .word w => some { s with position := .scalar (written ++ w) }
    | .dot => some { s with position := .scalar (written ++ ['.']) }
    | .blank [' '] =>
      if date? written = some [] then some { s with position := .afterDate written }
      else endScalar s written token
    | token => endScalar s written token
  | .afterDate written =>
    match token with
    | .word w => some { s with position := .scalar (written ++ ' ' :: w) }
    | token => endScalar s written token
  | .afterItem => takeAfterItem s token
  | .lineEnd => takeLineEnd s token

def takeAll (s : State) : List Token → Option State
  | [] => some s
  | token :: rest => (take s token).bind (takeAll · rest)

def initial : State := { position := .start, root := [], current := [], key := [], stack := [] }

/-- The end of the text counts as a newline. -/
def ofTokens? (tokens : List Token) : Option Tree :=
  match takeAll initial (tokens ++ [.newline]) with
  | some s =>
    match s.position with
    | .start => some (.table (entryTrees s.root))
    | _ => none
  | none => none

def parse? (text : String) : Option Tree := (tokens? text.toList).bind ofTokens?

end SlideConverter.Toml

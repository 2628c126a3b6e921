import SlideConverter.Json.Token

/-!
# TOML tokens

Text is cut into tokens one character at a time; comments leave nothing. Blanks are
tokens, because two brackets of a header may not be apart and one blank may stand
inside a date. Strings come in two kinds of quotation marks, each on one line or on
several. Inside a string of several lines up to two marks in a row are text, and up
to two more may stand in front of the three that close it.
-/

namespace SlideConverter.Toml

inductive Token where
  | newline
  | blank (written : List Char)
  | openBracket
  | closeBracket
  | openBrace
  | closeBrace
  | comma
  | equals
  | dot
  | string (multiline : Bool) (text : String)
  | word (written : List Char)
deriving DecidableEq

inductive Quote where
  | basic
  | literal
deriving DecidableEq

def Quote.mark : Quote → Char
  | .basic => '"'
  | .literal => '\''

/-- Where the reader is; texts are in reverse. -/
inductive Mode where
  | between
  | blank (written : List Char)
  | word (written : List Char)
  | comment
  /-- Behind a carriage return, outside of strings. -/
  | carriage
  | openedOnce (quote : Quote)
  | openedTwice (quote : Quote)
  | line (quote : Quote) (text : List Char)
  | escape (multiline : Bool) (text : List Char)
  | hex (multiline : Bool) (text : List Char) (owed value : Nat)
  /-- Behind the opening of a string of several lines: a newline here is no text. -/
  | fresh (quote : Quote)
  | freshCarriage (quote : Quote)
  /-- In a string of several lines, behind `marks` quotation marks in a row. -/
  | lines (quote : Quote) (text : List Char) (marks : Nat)
  | linesCarriage (quote : Quote) (text : List Char)
  /-- Behind a backslash at the end of a line: blanks and newlines are no text. -/
  | joined (text : List Char) (seenNewline : Bool)
  | joinedCarriage (text : List Char)

def isControl (c : Char) : Bool := c.toNat < 0x20 || c.toNat = 0x7F

/-- Controls other than the tab stand in no comment and in no string. -/
def isPrintable (c : Char) : Bool := !isControl c || c = '\t'

def isBlank (c : Char) : Bool := c = ' ' || c = '\t'

/-- A character that begins a token. -/
def enter (c : Char) : List Token × Mode :=
  match c with
  | ' ' | '\t' => ([], .blank [c])
  | '\n' => ([.newline], .between)
  | '\r' => ([], .carriage)
  | '#' => ([], .comment)
  | '[' => ([.openBracket], .between)
  | ']' => ([.closeBracket], .between)
  | '\x7b' => ([.openBrace], .between)
  | '\x7d' => ([.closeBrace], .between)
  | ',' => ([.comma], .between)
  | '=' => ([.equals], .between)
  | '.' => ([.dot], .between)
  | '"' => ([], .openedOnce .basic)
  | '\'' => ([], .openedOnce .literal)
  | c => ([], .word [c])

def endsWord (c : Char) : Bool :=
  [' ', '\t', '\n', '\r', '#', '[', ']', '\x7b', '\x7d', ',', '=', '.', '"', '\''].contains c

/-- The token that has ended, in front of what the next character begins. -/
def behind (token : Token) (c : Char) : List Token × Mode :=
  let (tokens, mode) := enter c
  (token :: tokens, mode)

def stringToken (multiline : Bool) (text : List Char) : Token :=
  .string multiline (String.ofList text.reverse)

/-- The character of a one-letter escape. -/
def escaped? (c : Char) : Option Char :=
  match c with
  | 'b' => some '\x08'
  | 't' => some '\t'
  | 'n' => some '\n'
  | 'f' => some '\x0c'
  | 'r' => some '\r'
  | 'e' => some '\x1b'
  | '"' => some '"'
  | '\\' => some '\\'
  | _ => none

/-- How many hexadecimal digits follow the letter of a numeric escape. -/
def hexLength? (c : Char) : Option Nat :=
  match c with
  | 'x' => some 2
  | 'u' => some 4
  | 'U' => some 8
  | _ => none

/-- The character of a code point; halves of surrogate pairs are none. -/
def charOf? (n : Nat) : Option Char := if n.isValidChar then some (Char.ofNat n) else none

/-- Back to the string that an escape stands in. -/
def resume (multiline : Bool) (text : List Char) : Mode :=
  if multiline then .lines .basic text 0 else .line .basic text

def inLine (quote : Quote) (text : List Char) (c : Char) : Option (List Token × Mode) :=
  if c = quote.mark then some ([stringToken false text], .between)
  else if c = '\\' && quote = .basic then some ([], .escape false text)
  else if isPrintable c then some ([], .line quote (c :: text))
  else none

def afterBackslash (multiline : Bool) (text : List Char) (c : Char) : Option (List Token × Mode) :=
  match escaped? c with
  | some e => some ([], resume multiline (e :: text))
  | none =>
    match hexLength? c with
    | some n => some ([], .hex multiline text n 0)
    | none =>
      if !multiline then none
      else if isBlank c then some ([], .joined text false)
      else if c = '\n' then some ([], .joined text true)
      else if c = '\r' then some ([], .joinedCarriage text)
      else none

def inHex (multiline : Bool) (text : List Char) (owed value : Nat) (c : Char) :
    Option (List Token × Mode) :=
  match Json.hexValue? c with
  | none => none
  | some d =>
    let value := value * 16 + d
    if owed ≤ 1 then (charOf? value).map fun e => ([], resume multiline (e :: text))
    else some ([], .hex multiline text (owed - 1) value)

/-- A character of a string of several lines that is no quotation mark. -/
def inLines (quote : Quote) (text : List Char) (c : Char) : Option (List Token × Mode) :=
  if c = '\\' && quote = .basic then some ([], .escape true text)
  else if c = '\r' then some ([], .linesCarriage quote text)
  else if c = '\n' || isPrintable c then some ([], .lines quote (c :: text) 0)
  else none

/-- A string of several lines that ends in a row of `marks` quotation marks. -/
def closeLines (quote : Quote) (text : List Char) (marks : Nat) : Token :=
  stringToken true (List.replicate (marks - 3) quote.mark ++ text)

def afterMarks (quote : Quote) (text : List Char) (marks : Nat) (c : Char) :
    Option (List Token × Mode) :=
  if c = quote.mark then
    if marks = 5 then some (behind (closeLines quote text marks) c)
    else some ([], .lines quote text (marks + 1))
  else if marks ≥ 3 then some (behind (closeLines quote text marks) c)
  else inLines quote (List.replicate marks quote.mark ++ text) c

def afterFresh (quote : Quote) (c : Char) : Option (List Token × Mode) :=
  if c = '\n' then some ([], .lines quote [] 0)
  else if c = '\r' then some ([], .freshCarriage quote)
  else afterMarks quote [] 0 c

def afterJoin (text : List Char) (seenNewline : Bool) (c : Char) : Option (List Token × Mode) :=
  if isBlank c then some ([], .joined text seenNewline)
  else if c = '\n' then some ([], .joined text true)
  else if c = '\r' then some ([], .joinedCarriage text)
  else if seenNewline then afterMarks .basic text 0 c
  else none

def advance (mode : Mode) (c : Char) : Option (List Token × Mode) :=
  match mode with
  | .between => some (enter c)
  | .blank w => if isBlank c then some ([], .blank (c :: w)) else some (behind (.blank w.reverse) c)
  | .word w => if endsWord c then some (behind (.word w.reverse) c) else some ([], .word (c :: w))
  | .comment =>
    if c = '\n' then some ([.newline], .between)
    else if c = '\r' then some ([], .carriage)
    else if isPrintable c then some ([], .comment)
    else none
  | .carriage => if c = '\n' then some ([.newline], .between) else none
  | .openedOnce quote => if c = quote.mark then some ([], .openedTwice quote) else inLine quote [] c
  | .openedTwice quote =>
    if c = quote.mark then some ([], .fresh quote) else some (behind (stringToken false []) c)
  | .line quote text => inLine quote text c
  | .escape multiline text => afterBackslash multiline text c
  | .hex multiline text owed value => inHex multiline text owed value c
  | .fresh quote => afterFresh quote c
  | .freshCarriage quote => if c = '\n' then some ([], .lines quote [] 0) else none
  | .lines quote text marks => afterMarks quote text marks c
  | .linesCarriage quote text =>
    if c = '\n' then some ([], .lines quote ('\n' :: '\r' :: text) 0) else none
  | .joined text seenNewline => afterJoin text seenNewline c
  | .joinedCarriage text => if c = '\n' then some ([], .joined text true) else none

/-- What is left to say at the end of the text. -/
def conclude : Mode → Option (List Token)
  | .between | .comment => some []
  | .blank w => some [.blank w.reverse]
  | .word w => some [.word w.reverse]
  | .openedTwice _ => some [stringToken false []]
  | .lines quote text marks => if marks ≥ 3 then some [closeLines quote text marks] else none
  | _ => none

def scan (mode : Mode) : List Char → Option (List Token)
  | [] => conclude mode
  | c :: rest =>
    match advance mode c with
    | none => none
    | some (tokens, mode) => (scan mode rest).map (tokens ++ ·)

/-- A byte order mark in front of the text is passed over. -/
def tokens? (text : List Char) : Option (List Token) :=
  match text with
  | '\uFEFF' :: rest => scan .between rest
  | text => scan .between text

end SlideConverter.Toml

/-!
# Words and operators of the shell

A script is cut into tokens character by character. Quotes are gone afterwards, but
each part of a word knows whether it was quoted. What stands in braces or parentheses
behind a dollar sign is kept as source text; it is cut in its turn when it is needed.
-/

namespace SlideConverter.Shell

inductive Part where
  | text (chars : List Char) (quoted : Bool)
  | parameter (name : List Char) (quoted : Bool)
  /-- A parameter in braces, with what is done to it. -/
  | braces (source : List Char) (quoted : Bool)
  /-- What a command prints. -/
  | command (source : List Char) (quoted : Bool)
deriving DecidableEq

abbrev Word := List Part

inductive Token where
  | word (word : Word)
  | operator (chars : List Char)
  | redirection (descriptor : Option Nat) (chars : List Char)
  /-- The script ended inside quotes, braces or parentheses. -/
  | unclosed
deriving DecidableEq

inductive Scan where
  | plain
  | single
  | double
  | escape (inDouble : Bool)
  | dollar (inDouble : Bool)
  | name (inDouble : Bool) (reversed : List Char)
  /-- Source text up to the closing characters that are still awaited, innermost first. -/
  | nested (inDouble isCommand : Bool) (closers reversed : List Char)
  | comment
  | operator (descriptor : Option Nat) (first : Char)

/-- Everything read so far is in reverse. -/
structure Lexer where
  tokens : List Token := []
  /-- The word that has begun, if one has. -/
  word : Option Word := none
  scan : Scan := .plain
  /-- Whether all is one word, blanks and operators included. -/
  oneWord : Bool := false

namespace Lexer

def addPart (l : Lexer) (p : Part) : Lexer := { l with word := some (p :: l.word.getD []) }

def addChar (l : Lexer) (quoted : Bool) (c : Char) : Lexer :=
  match l.word with
  | some (.text chars q :: parts) =>
    if q = quoted then { l with word := some (.text (chars ++ [c]) q :: parts) }
    else l.addPart (.text [c] quoted)
  | _ => l.addPart (.text [c] quoted)

def endWord (l : Lexer) : Lexer :=
  match l.word with
  | none => l
  | some parts => { l with tokens := .word parts.reverse :: l.tokens, word := none }

def push (l : Lexer) (t : Token) : Lexer := { l with tokens := t :: l.tokens }

def isOperatorChar (c : Char) : Bool := [';', '&', '|', '(', ')', '<', '>'].contains c

def isNameStart (c : Char) : Bool := c.isAlpha || c = '_'

def isNameChar (c : Char) : Bool := c.isAlphanum || c = '_'

def isSpecialParameter (c : Char) : Bool := ['@', '*', '#', '?', '$', '!', '-'].contains c

/-- A number directly before a redirection says which stream is meant. -/
def takeDescriptor (l : Lexer) : Option Nat × Lexer :=
  match l.word with
  | some [.text chars false] =>
    match (String.ofList chars).toNat? with
    | some n => (some n, { l with word := none })
    | none => (none, l)
  | _ => (none, l)

def openOperator (l : Lexer) (c : Char) : Lexer :=
  if c = '<' ∨ c = '>' then
    let (descriptor, l) := l.takeDescriptor
    { l.endWord with scan := .operator descriptor c }
  else if c = '(' ∨ c = ')' then l.endWord.push (.operator [c])
  else { l.endWord with scan := .operator none c }

def stepPlain (l : Lexer) (c : Char) : Lexer :=
  if c = '\'' then { l.addPart (.text [] true) with scan := .single }
  else if c = '"' then { l.addPart (.text [] true) with scan := .double }
  else if c = '\\' then { l with scan := .escape false }
  else if c = '$' then { l with scan := .dollar false }
  else if l.oneWord then l.addChar false c
  else if c = ' ' ∨ c = '\t' then l.endWord
  else if c = '\n' then l.endWord.push (.operator ['\n'])
  else if c = '#' && l.word.isNone then { l with scan := .comment }
  else if isOperatorChar c then l.openOperator c
  else l.addChar false c

def stepDouble (l : Lexer) (c : Char) : Lexer :=
  if c = '"' then { l with scan := .plain }
  else if c = '\\' then { l with scan := .escape true }
  else if c = '$' then { l with scan := .dollar true }
  else l.addChar true c

/-- Back to where the dollar sign stood. -/
def resume (l : Lexer) (inDouble : Bool) : Lexer :=
  { l with scan := if inDouble then .double else .plain }

def stepBase (l : Lexer) (inDouble : Bool) (c : Char) : Lexer :=
  if inDouble then (l.resume true).stepDouble c else (l.resume false).stepPlain c

/-- Between double quotes a backslash takes the meaning from these characters only. -/
def escapable : List Char := ['$', '"', '\\', '\x60']

def stepEscape (l : Lexer) (inDouble : Bool) (c : Char) : Lexer :=
  let l := l.resume inDouble
  if c = '\n' then l
  else if inDouble && !escapable.contains c then (l.addChar true '\\').addChar true c
  else l.addChar true c

def stepDollar (l : Lexer) (inDouble : Bool) (c : Char) : Lexer :=
  if c = '(' then { l with scan := .nested inDouble true [')'] [] }
  else if c = '{' then { l with scan := .nested inDouble false ['}'] [] }
  else if isNameStart c then { l with scan := .name inDouble [c] }
  else if c.isDigit || isSpecialParameter c then
    (l.addPart (.parameter [c] inDouble)).resume inDouble
  else (l.addChar inDouble '$').stepBase inDouble c

def stepName (l : Lexer) (inDouble : Bool) (reversed : List Char) (c : Char) : Lexer :=
  if isNameChar c then { l with scan := .name inDouble (c :: reversed) }
  else (l.addPart (.parameter reversed.reverse inDouble)).stepBase inDouble c

/-- What closes the text that `c` opens, behind `previous` and inside `closer`. -/
def closerOf? (closer : Char) (previous : Option Char) (c : Char) : Option Char :=
  if closer = '\'' then none
  else if c = '\\' then some '\\'
  else if c = '(' && (previous = some '$' || closer = ')') then some ')'
  else if c = '{' && previous = some '$' then some '}'
  else if closer = '"' then none
  else if c = '\'' || c = '"' then some c
  else none

def stepNested (l : Lexer) (inDouble isCommand : Bool) (closers reversed : List Char) (c : Char) :
    Lexer :=
  let go (closers : List Char) : Lexer :=
    { l with scan := .nested inDouble isCommand closers (c :: reversed) }
  match closers with
  | [] => l
  | closer :: outer =>
    if closer = '\\' then go outer
    else if c = closer then
      if outer.isEmpty then
        let part : Part :=
          if isCommand then .command reversed.reverse inDouble
          else .braces reversed.reverse inDouble
        (l.addPart part).resume inDouble
      else go outer
    else
      match closerOf? closer reversed.head? c with
      | some inner => go (inner :: closers)
      | none => go closers

def pushOperator (l : Lexer) (descriptor : Option Nat) (chars : List Char) : Lexer :=
  let token : Token :=
    match chars with
    | '<' :: _ | '>' :: _ => .redirection descriptor chars
    | _ => .operator chars
  { l.push token with scan := .plain }

def isDoubled (first c : Char) : Bool :=
  (first = c && ['&', '|', ';', '<', '>'].contains c)
    || ((first = '<' || first = '>') && c = '&') || (first = '>' && c = '|')

def stepOperator (l : Lexer) (descriptor : Option Nat) (first c : Char) : Lexer :=
  if isDoubled first c then l.pushOperator descriptor [first, c]
  else (l.pushOperator descriptor [first]).stepPlain c

def step (l : Lexer) (c : Char) : Lexer :=
  match l.scan with
  | .plain => l.stepPlain c
  | .single => if c = '\'' then { l with scan := .plain } else l.addChar true c
  | .double => l.stepDouble c
  | .escape inDouble => l.stepEscape inDouble c
  | .dollar inDouble => l.stepDollar inDouble c
  | .name inDouble reversed => l.stepName inDouble reversed c
  | .nested inDouble isCommand closers reversed =>
    l.stepNested inDouble isCommand closers reversed c
  | .comment => if c = '\n' then { l with scan := .plain }.push (.operator ['\n']) else l
  | .operator descriptor first => l.stepOperator descriptor first c

/-- The text has ended. -/
def finish (l : Lexer) : Lexer :=
  match l.scan with
  | .plain => l.endWord
  | .comment => l
  | .operator descriptor first => l.pushOperator descriptor [first]
  | .dollar false => (l.addChar false '$').endWord
  | .name false reversed => (l.addPart (.parameter reversed.reverse false)).endWord
  | _ => l.push .unclosed

end Lexer

def tokens (source : List Char) : List Token :=
  (source.foldl Lexer.step {}).finish.tokens.reverse

/-- All of `source` as one word. -/
def wordOf (source : List Char) : Word :=
  match (source.foldl Lexer.step { oneWord := true }).finish.tokens with
  | [.word w] => w
  | _ => []

end SlideConverter.Shell

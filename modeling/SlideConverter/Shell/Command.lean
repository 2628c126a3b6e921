import SlideConverter.Shell.Token

/-!
# Commands of the shell

Commands and how they are read from tokens: simple commands with assignments and
redirections, the ways to join them, conditions, loops and groups. Reading needs
fuel; each step inwards or onwards takes one unit.
-/

namespace SlideConverter.Shell

inductive Direction where
  | read
  | write
  | append
  | duplicate
deriving DecidableEq

structure Redirection where
  descriptor : Nat
  direction : Direction
  target : Word

inductive Command where
  | nothing
  | simple (assignments : List (List Char × Word)) (words : List Word)
      (redirections : List Redirection)
  | sequence (first second : Command)
  | both (first second : Command)
  | either (first second : Command)
  | negation (command : Command)
  | pipe (first second : Command)
  | branch (condition yes no : Command)
  /-- Succeeds if one of the patterns stands for the word. -/
  | matching (word : Word) (patterns : List Word)
  /-- Repeats the body as long as the condition succeeds, or as long as it fails. -/
  | loop (succeeds : Bool) (condition body : Command)
  /-- Without items, the positional parameters are gone through. -/
  | each (name : List Char) (items : Option (List Word)) (body : Command)
  | group (body : Command) (redirections : List Redirection)
  | subshell (body : Command) (redirections : List Redirection)

/-- Commands with the tokens that are left, or a syntax error. -/
abbrev Reading := Option (Command × List Token)

def reserved? : Token → Option (List Char)
  | .word [.text chars false] => some chars
  | _ => none

def isReserved (word : String) (t : Token) : Bool := reserved? t = some word.toList

/-- Tokens that no command begins with because they end what is around it. -/
def isCloser (t : Token) : Bool :=
  ["then", "else", "elif", "fi", "do", "done", "esac", "\x7d"].any (isReserved · t)
    || t = .operator [')'] || t = .operator [';', ';']

def isNewline (t : Token) : Bool := t = .operator ['\n']

def skipNewlines (ts : List Token) : List Token := ts.dropWhile isNewline

def expect (word : String) : List Token → Option (List Token)
  | [] => none
  | t :: rest => if isReserved word t then some rest else none

/-- A word that gives a variable a value. -/
def assignment? : Word → Option (List Char × Word)
  | .text chars false :: parts =>
    let name := chars.takeWhile Lexer.isNameChar
    match chars.drop name.length with
    | '=' :: value =>
      if name.head?.any Lexer.isNameStart then
        some (name, if value.isEmpty then parts else .text value false :: parts)
      else none
    | _ => none
  | _ => none

def splitAssignments : List Word → List (List Char × Word) × List Word
  | [] => ([], [])
  | w :: rest =>
    match assignment? w with
    | none => ([], w :: rest)
    | some a =>
      let (assignments, words) := splitAssignments rest
      (a :: assignments, words)

def redirection? (descriptor : Option Nat) (chars : List Char) (target : Word) :
    Option Redirection :=
  match chars with
  | ['<'] => some { descriptor := descriptor.getD 0, direction := .read, target }
  | ['>'] | ['>', '|'] => some { descriptor := descriptor.getD 1, direction := .write, target }
  | ['>', '>'] => some { descriptor := descriptor.getD 1, direction := .append, target }
  | ['>', '&'] => some { descriptor := descriptor.getD 1, direction := .duplicate, target }
  | ['<', '&'] => some { descriptor := descriptor.getD 0, direction := .duplicate, target }
  | _ => none

/-- The words and redirections at the beginning of `tokens`. -/
def takeSimple : List Token → Option (List Word × List Redirection × List Token)
  | .word w :: rest => do
    let (words, redirections, rest) ← takeSimple rest
    return (w :: words, redirections, rest)
  | .redirection descriptor chars :: .word target :: rest => do
    let redirection ← redirection? descriptor chars target
    let (words, redirections, rest) ← takeSimple rest
    return (words, redirection :: redirections, rest)
  | .redirection _ _ :: _ => none
  | .unclosed :: _ => none
  | rest => some ([], [], rest)

/-- Redirections behind a command that is not simple. -/
def takeRedirections (tokens : List Token) : Option (List Redirection × List Token) := do
  match ← takeSimple tokens with
  | ([], redirections, rest) => return (redirections, rest)
  | _ => none

def takeItems : List Token → List Word × List Token
  | .word w :: rest =>
    let (items, rest) := takeItems rest
    (w :: items, rest)
  | rest => ([], rest)

/-- Patterns with bars between them, and the parenthesis that closes them. -/
def takePatterns : List Token → Option (List Word × List Token)
  | .word w :: .operator [')'] :: rest => some ([w], rest)
  | .word w :: .operator ['|'] :: rest => do
    let (patterns, rest) ← takePatterns rest
    return (w :: patterns, rest)
  | _ => none

/-- Past the end of a clause; the last one may end where all of them do. -/
def endClause : List Token → Option (List Token)
  | .operator [';', ';'] :: rest => some rest
  | t :: rest => if isReserved "esac" t then some (t :: rest) else none
  | [] => none

def readSimple (tokens : List Token) : Reading := do
  let (words, redirections, rest) ← takeSimple tokens
  let (assignments, words) := splitAssignments words
  if assignments.isEmpty && words.isEmpty && redirections.isEmpty then none
  else return (.simple assignments words redirections, rest)

mutual

/-- Commands up to a closer or the end. -/
def readList : Nat → List Token → Reading
  | 0, _ => none
  | fuel + 1, tokens =>
    let tokens := skipNewlines tokens
    match tokens with
    | [] => some (.nothing, [])
    | t :: _ => if isCloser t then some (.nothing, tokens) else readMore fuel tokens

/-- A command and those that follow it in the same list. -/
def readMore : Nat → List Token → Reading
  | 0, _ => none
  | fuel + 1, tokens => do
    let (first, rest) ← readJoined fuel tokens
    match rest with
    | .operator [';'] :: rest | .operator ['\n'] :: rest | .operator ['&'] :: rest =>
      let (second, rest) ← readList fuel rest
      return (.sequence first second, rest)
    | rest => return (first, rest)

/-- Pipelines joined by "and" and "or", which bind alike and to the left. -/
def readJoined : Nat → List Token → Reading
  | 0, _ => none
  | fuel + 1, tokens => do
    let (first, rest) ← readPipeline fuel tokens
    readJoinedTo fuel first rest

def readJoinedTo : Nat → Command → List Token → Reading
  | 0, _, _ => none
  | fuel + 1, first, tokens =>
    match tokens with
    | .operator ['&', '&'] :: rest => do
      let (second, rest) ← readPipeline fuel (skipNewlines rest)
      readJoinedTo fuel (.both first second) rest
    | .operator ['|', '|'] :: rest => do
      let (second, rest) ← readPipeline fuel (skipNewlines rest)
      readJoinedTo fuel (.either first second) rest
    | rest => some (first, rest)

def readPipeline : Nat → List Token → Reading
  | 0, _ => none
  | fuel + 1, tokens =>
    match tokens with
    | [] => none
    | t :: rest =>
      if isReserved "!" t then do
        let (command, rest) ← readPipeline fuel rest
        return (.negation command, rest)
      else do
        let (first, rest) ← readCommand fuel (t :: rest)
        match rest with
        | .operator ['|'] :: rest =>
          let (second, rest) ← readPipeline fuel (skipNewlines rest)
          return (.pipe first second, rest)
        | rest => return (first, rest)

def readCommand : Nat → List Token → Reading
  | 0, _ => none
  | fuel + 1, tokens =>
    match tokens with
    | [] => none
    | t :: rest =>
      if isReserved "if" t then readBranch fuel rest
      else if isReserved "while" t then readLoop fuel true rest
      else if isReserved "until" t then readLoop fuel false rest
      else if isReserved "for" t then readEach fuel rest
      else if isReserved "case" t then
        match rest with
        | .word word :: rest => do
          let (clauses, rest) ← readClauses fuel word (← expect "in" (skipNewlines rest))
          let (redirections, rest) ← takeRedirections rest
          return (.group clauses redirections, rest)
        | _ => none
      else if isReserved "\x7b" t then do
        let (body, rest) ← readList fuel rest
        let (redirections, rest) ← takeRedirections (← expect "\x7d" rest)
        return (.group body redirections, rest)
      else if t = .operator ['('] then do
        let (body, rest) ← readList fuel rest
        match rest with
        | .operator [')'] :: rest =>
          let (redirections, rest) ← takeRedirections rest
          return (.subshell body redirections, rest)
        | _ => none
      else if isCloser t then none
      else readSimple (t :: rest)

def readBranch : Nat → List Token → Reading
  | 0, _ => none
  | fuel + 1, tokens => do
    let (condition, rest) ← readList fuel tokens
    let (yes, rest) ← readList fuel (← expect "then" rest)
    match rest with
    | [] => none
    | t :: rest =>
      if isReserved "fi" t then return (.branch condition yes .nothing, rest)
      else if isReserved "elif" t then
        let (no, rest) ← readBranch fuel rest
        return (.branch condition yes no, rest)
      else if isReserved "else" t then
        let (no, rest) ← readList fuel rest
        return (.branch condition yes no, ← expect "fi" rest)
      else none

/-- Clauses for `word`; the first one with a pattern that stands for it is meant. -/
def readClauses : Nat → Word → List Token → Reading
  | 0, _, _ => none
  | fuel + 1, word, tokens =>
    match skipNewlines tokens with
    | [] => none
    | t :: rest =>
      if isReserved "esac" t then some (.nothing, rest)
      else do
        let (patterns, rest) ← takePatterns (if t = .operator ['('] then rest else t :: rest)
        let (body, rest) ← readList fuel rest
        let (others, rest) ← readClauses fuel word (← endClause rest)
        return (.branch (.matching word patterns) body others, rest)

def readLoop : Nat → Bool → List Token → Reading
  | 0, _, _ => none
  | fuel + 1, succeeds, tokens => do
    let (condition, rest) ← readList fuel tokens
    let (body, rest) ← readList fuel (← expect "do" rest)
    return (.loop succeeds condition body, ← expect "done" rest)

def readEach : Nat → List Token → Reading
  | 0, _ => none
  | fuel + 1, tokens =>
    match tokens with
    | .word [.text name false] :: rest => do
      let rest := skipNewlines rest
      let (items, rest) := match rest with
        | t :: after =>
          if isReserved "in" t then
            let (items, after) := takeItems after
            (some items, after)
          else (none, rest)
        | [] => (none, [])
      let rest := match rest with
        | .operator [';'] :: rest => rest
        | rest => rest
      let (body, rest) ← readList fuel (← expect "do" (skipNewlines rest))
      return (.each name items body, ← expect "done" rest)
    | _ => none

end

/-- The first complete command of a script; a line is complete at its end. -/
def readLine (fuel : Nat) (tokens : List Token) : Reading := do
  let (command, rest) ← readJoined fuel tokens
  match rest with
  | [] => return (command, [])
  | .operator [';'] :: rest | .operator ['\n'] :: rest | .operator ['&'] :: rest =>
    return (command, rest)
  | _ => none

end SlideConverter.Shell

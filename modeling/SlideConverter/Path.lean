import SlideConverter.Text.Utf8

/-!
# Paths

A path is any sequence of bytes. What it means is its sequence of components:
repeated slashes, slashes at the end and inner `.` components do not count. Names,
extensions and the order of paths are defined on the components, joining and
display on the bytes. Nothing here looks at a disk.
-/

namespace SlideConverter

open Text

structure Path where
  bytes : Bytes
deriving DecidableEq

namespace Path

def slash : UInt8 := 0x2F

def dot : UInt8 := 0x2E

def ofString (s : String) : Path := ⟨Utf8.encode s⟩

/-- For people: broken UTF-8 shows as U+FFFD. -/
def display (p : Path) : String := Utf8.decodeLossy p.bytes

def isAbsolute (p : Path) : Bool := p.bytes.head? == some slash

inductive Component where
  | root
  | current
  | parent
  | name (bytes : Bytes)
deriving DecidableEq

/-- The stretches between slashes, the empty ones included. -/
def splitSlashes : Bytes → List Bytes
  | [] => [[]]
  | b :: rest =>
    if b = slash then [] :: splitSlashes rest
    else
      match splitSlashes rest with
      | [] => [[b]]
      | part :: parts => (b :: part) :: parts

/-- The component that a stretch behind the first one is; the empty one and `.` are none. -/
def innerComponent (part : Bytes) : Option Component :=
  if part = [] then none
  else if part = [dot] then none
  else if part = [dot, dot] then some .parent
  else some (.name part)

/-- A `.` counts only where a relative path begins with it. -/
def firstComponent (part : Bytes) : Option Component :=
  if part = [dot] then some .current else innerComponent part

def components (p : Path) : List Component :=
  match splitSlashes p.bytes with
  | [] => []
  | part :: parts =>
    if p.isAbsolute then .root :: parts.filterMap innerComponent
    else (firstComponent part).toList ++ parts.filterMap innerComponent

/-- The last component, if it is a name. -/
def fileName (p : Path) : Option Bytes :=
  match p.components.getLast? with
  | some (.name n) => some n
  | _ => none

/-- The parts before and after the last `sep`. -/
def splitLast (sep : UInt8) : Bytes → Option (Bytes × Bytes)
  | [] => none
  | b :: rest =>
    match splitLast sep rest with
    | some (before, after) => some (b :: before, after)
    | none => if b = sep then some ([], rest) else none

/-- What follows the last dot of the file name, unless the name begins with that dot. -/
def extension (p : Path) : Option Bytes :=
  p.fileName.bind fun n =>
    match splitLast dot n with
    | some (before, after) => if before.isEmpty then none else some after
    | none => none

def extensionText (p : Path) : Option String := p.extension.bind Utf8.decode?

/-- `p` seen from `base`: an absolute `p` replaces it. -/
def join (base p : Path) : Path :=
  if p.isAbsolute then p
  else if base.bytes.isEmpty || base.bytes.getLast? == some slash then ⟨base.bytes ++ p.bytes⟩
  else ⟨base.bytes ++ slash :: p.bytes⟩

/-- From the end, stretches that are no component; the first stretch always stays. -/
def dropSilent (reversed : List Bytes) : List Bytes :=
  match reversed with
  | [] => []
  | [first] => [first]
  | part :: before => if (innerComponent part).isSome then part :: before else dropSilent before

def joinParts : List Bytes → Bytes
  | [] => []
  | [part] => part
  | part :: rest => part ++ slash :: joinParts rest

/-- The path without its last component; the root and the empty path have no parent. -/
def parent (p : Path) : Option Path :=
  match dropSilent (splitSlashes p.bytes).reverse with
  | [] => none
  | [first] => if first.isEmpty then none else some ⟨[]⟩
  | _ :: before =>
    let kept := joinParts (dropSilent before).reverse
    some ⟨if kept.isEmpty && p.isAbsolute then [slash] else kept⟩

def lineageWithin : Nat → Path → List Path
  | 0, p => [p]
  | steps + 1, p =>
    match p.parent with
    | none => [p]
    | some above => p :: lineageWithin steps above

/-- The path, its parent, the parent of that, and so on; every parent is shorter. -/
def lineage (p : Path) : List Path := lineageWithin p.bytes.length p

/-- A component as a block of numbers that no other block is the beginning of. -/
def Component.orderKey : Component → List Nat
  | .root => [0]
  | .current => [1]
  | .parent => [2]
  | .name n => 3 :: n.map (·.toNat + 1) ++ [0]

/-- Paths are ordered by components: root, `.`, `..`, then names by their bytes. -/
def orderKey (p : Path) : List Nat := p.components.flatMap Component.orderKey

def le (p q : Path) : Bool := !List.lex q.orderKey p.orderKey Nat.blt

end Path

end SlideConverter

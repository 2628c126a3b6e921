/-!
# UTF-8

Text as bytes. `pieces` cuts any byte sequence into the characters it spells and
the broken stretches between them, where a stretch is as long as it can be while
it still begins some character. Everything else here is read off the pieces: the
strict reader wants no broken stretch, the lenient one shows U+FFFD for each.
-/

namespace SlideConverter.Text

abbrev Bytes := List UInt8

namespace Utf8

/-- A character of which some bytes have been read. The next byte must lie in `[low, high]`. -/
structure Pending where
  value : Nat
  owed : Nat
  low : UInt8 := 0x80
  high : UInt8 := 0xBF

/-- What the first byte of a character may be. -/
inductive Lead where
  | complete (c : Char)
  | unfinished (pending : Pending)
  | broken

def lead (b : UInt8) : Lead :=
  if b < 0x80 then .complete (Char.ofNat b.toNat)
  else if b < 0xC2 then .broken
  else if b < 0xE0 then .unfinished { value := b.toNat - 0xC0, owed := 1 }
  else if b = 0xE0 then .unfinished { value := 0, owed := 2, low := 0xA0 }
  else if b = 0xED then .unfinished { value := 0xD, owed := 2, high := 0x9F }
  else if b < 0xF0 then .unfinished { value := b.toNat - 0xE0, owed := 2 }
  else if b = 0xF0 then .unfinished { value := 0, owed := 3, low := 0x90 }
  else if b < 0xF4 then .unfinished { value := b.toNat - 0xF0, owed := 3 }
  else if b = 0xF4 then .unfinished { value := 4, owed := 3, high := 0x8F }
  else .broken

def Pending.extend (p : Pending) (b : UInt8) : Nat := p.value * 64 + (b.toNat - 0x80)

/-- `none` stands for a broken stretch. -/
def piecesFrom : Option Pending → Bytes → List (Option Char)
  | none, [] => []
  | some _, [] => [none]
  | none, b :: rest =>
    match lead b with
    | .complete c => some c :: piecesFrom none rest
    | .unfinished p => piecesFrom (some p) rest
    | .broken => none :: piecesFrom none rest
  | some p, b :: rest =>
    if p.low ≤ b ∧ b ≤ p.high then
      if p.owed ≤ 1 then some (Char.ofNat (p.extend b)) :: piecesFrom none rest
      else piecesFrom (some { value := p.extend b, owed := p.owed - 1 }) rest
    else
      match lead b with
      | .complete c => none :: some c :: piecesFrom none rest
      | .unfinished q => none :: piecesFrom (some q) rest
      | .broken => none :: none :: piecesFrom none rest

def pieces (bytes : Bytes) : List (Option Char) := piecesFrom none bytes

/-- The text of `bytes`, if every byte belongs to a character. -/
def decode? (bytes : Bytes) : Option String :=
  ((pieces bytes).mapM id).map String.ofList

/-- The text of `bytes` with U+FFFD for every broken stretch. -/
def decodeLossy (bytes : Bytes) : String :=
  String.ofList ((pieces bytes).map (·.getD '\uFFFD'))

def encodeChars (chars : List Char) : Bytes := chars.flatMap String.utf8EncodeChar

def encode (s : String) : Bytes := encodeChars s.toList

end Utf8

end SlideConverter.Text

import SlideConverter.Text.Utf8

/-!
# SHA-256

The digest of a byte sequence: the message is padded to whole blocks of 64 bytes,
and the eight words of the state take in one block after the other.
-/

namespace SlideConverter.Digest

open Text

namespace Sha256

/-- The round constants: fractional parts of the cube roots of the first 64 primes. -/
def roundConstants : List UInt32 := [
  0x428a2f98, 0x71374491, 0xb5c0fbcf, 0xe9b5dba5, 0x3956c25b, 0x59f111f1, 0x923f82a4, 0xab1c5ed5,
  0xd807aa98, 0x12835b01, 0x243185be, 0x550c7dc3, 0x72be5d74, 0x80deb1fe, 0x9bdc06a7, 0xc19bf174,
  0xe49b69c1, 0xefbe4786, 0x0fc19dc6, 0x240ca1cc, 0x2de92c6f, 0x4a7484aa, 0x5cb0a9dc, 0x76f988da,
  0x983e5152, 0xa831c66d, 0xb00327c8, 0xbf597fc7, 0xc6e00bf3, 0xd5a79147, 0x06ca6351, 0x14292967,
  0x27b70a85, 0x2e1b2138, 0x4d2c6dfc, 0x53380d13, 0x650a7354, 0x766a0abb, 0x81c2c92e, 0x92722c85,
  0xa2bfe8a1, 0xa81a664b, 0xc24b8b70, 0xc76c51a3, 0xd192e819, 0xd6990624, 0xf40e3585, 0x106aa070,
  0x19a4c116, 0x1e376c08, 0x2748774c, 0x34b0bcb5, 0x391c0cb3, 0x4ed8aa4a, 0x5b9cca4f, 0x682e6ff3,
  0x748f82ee, 0x78a5636f, 0x84c87814, 0x8cc70208, 0x90befffa, 0xa4506ceb, 0xbef9a3f7, 0xc67178f2
]

structure State where
  a : UInt32
  b : UInt32
  c : UInt32
  d : UInt32
  e : UInt32
  f : UInt32
  g : UInt32
  h : UInt32

/-- Fractional parts of the square roots of the first eight primes. -/
def initial : State :=
  ⟨0x6a09e667, 0xbb67ae85, 0x3c6ef372, 0xa54ff53a, 0x510e527f, 0x9b05688c, 0x1f83d9ab, 0x5be0cd19⟩

def rotate (x : UInt32) (n : UInt32) : UInt32 := (x >>> n) ||| (x <<< (32 - n))

def bigEndian64 (n : Nat) : Bytes :=
  [56, 48, 40, 32, 24, 16, 8, 0].map fun shift => UInt8.ofNat (n >>> shift)

/-- The bit 1, zeros up to eight bytes short of a whole block, then the length in bits. -/
def padding (length : Nat) : Bytes :=
  0x80 :: List.replicate ((119 - length % 64) % 64) 0 ++ bigEndian64 (length * 8)

def wordsOf : Bytes → List UInt32
  | a :: b :: c :: d :: rest =>
    (a.toUInt32 <<< 24 ||| b.toUInt32 <<< 16 ||| c.toUInt32 <<< 8 ||| d.toUInt32) :: wordsOf rest
  | _ => []

/-- The message schedule of one block, in a window of its last sixteen words. -/
def schedule (block : List UInt32) : List UInt32 :=
  let rec extend : Nat → List UInt32 → List UInt32
    | 0, _ => []
    | n + 1, window =>
      let w (i : Nat) : UInt32 := window.getD i 0
      let s0 := rotate (w 1) 7 ^^^ rotate (w 1) 18 ^^^ (w 1 >>> 3)
      let s1 := rotate (w 14) 17 ^^^ rotate (w 14) 19 ^^^ (w 14 >>> 10)
      let next := w 0 + s0 + w 9 + s1
      next :: extend n (window.drop 1 ++ [next])
  block ++ extend 48 block

def round (s : State) (k w : UInt32) : State :=
  let s1 := rotate s.e 6 ^^^ rotate s.e 11 ^^^ rotate s.e 25
  let choice := (s.e &&& s.f) ^^^ (~~~ s.e &&& s.g)
  let t1 := s.h + s1 + choice + k + w
  let s0 := rotate s.a 2 ^^^ rotate s.a 13 ^^^ rotate s.a 22
  let majority := (s.a &&& s.b) ^^^ (s.a &&& s.c) ^^^ (s.b &&& s.c)
  ⟨t1 + s0 + majority, s.a, s.b, s.c, s.d + t1, s.e, s.f, s.g⟩

def State.add (s t : State) : State :=
  ⟨s.a + t.a, s.b + t.b, s.c + t.c, s.d + t.d, s.e + t.e, s.f + t.f, s.g + t.g, s.h + t.h⟩

def absorb (s : State) (block : List UInt32) : State :=
  s.add ((roundConstants.zip (schedule block)).foldl (fun t (k, w) => round t k w) s)

def blocks (words : List UInt32) : Nat → List (List UInt32)
  | 0 => []
  | n + 1 => words.take 16 :: blocks (words.drop 16) n

def hexDigits (width : Nat) (n : Nat) : List Char :=
  (List.range width).reverse.map fun i => (n / Nat.pow 16 i % 16).digitChar

def State.hex (s : State) : String :=
  String.ofList ([s.a, s.b, s.c, s.d, s.e, s.f, s.g, s.h].flatMap fun w => hexDigits 8 w.toNat)

end Sha256

/-- The digest in lower-case hexadecimal digits. -/
def sha256 (message : Bytes) : String :=
  let words := Sha256.wordsOf (message ++ Sha256.padding message.length)
  ((Sha256.blocks words (words.length / 16)).foldl Sha256.absorb Sha256.initial).hex

end SlideConverter.Digest

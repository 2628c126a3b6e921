import SlideConverter.Data.Tree
import SlideConverter.Json.Token

/-!
# TOML scalars without quotation marks

Truth values, integers in four bases, floating-point numbers, dates and times. Only
truth values and integers are kept as what they mean; of the others it matters here
that they are well formed.
-/

namespace SlideConverter.Toml

/-- Digits with single underscores between them; the digits alone are returned. -/
def digitsOf? (isDigit : Char → Bool) : List Char → Option (List Char)
  | [] => none
  | [c] => if isDigit c then some [c] else none
  | c :: '_' :: rest => if isDigit c then (digitsOf? isDigit rest).map (c :: ·) else none
  | c :: rest => if isDigit c then (digitsOf? isDigit rest).map (c :: ·) else none

def valueOf (base : Nat) (digits : List Char) : Nat :=
  digits.foldl (fun n c => n * base + (Json.hexValue? c).getD 0) 0

def decimalDigits? (s : List Char) : Option (List Char) := digitsOf? (·.isDigit) s

/-- Decimal digits without a zero in front of others. -/
def wholePart? (s : List Char) : Option (List Char) :=
  match decimalDigits? s with
  | some ('0' :: _ :: _) => none
  | found => found

/-- The sign that a number may begin with, and the rest. -/
def sign (s : List Char) : Bool × List Char :=
  match s with
  | '-' :: rest => (true, rest)
  | '+' :: rest => (false, rest)
  | rest => (false, rest)

/-- Integers fit 128 bits, with or without a sign. -/
def integerTree? (negative : Bool) (n : Nat) : Option Tree :=
  if negative then if n ≤ Nat.pow 2 127 then some (.integer (-(n : Int))) else none
  else if n < Nat.pow 2 128 then some (.integer n) else none

def prefixed? (s : List Char) : Option Tree :=
  let read (base : Nat) (isDigit : Char → Bool) (rest : List Char) : Option Tree :=
    (digitsOf? isDigit rest).bind fun digits => integerTree? false (valueOf base digits)
  match s with
  | '0' :: 'x' :: rest => read 16 (fun c => (Json.hexValue? c).isSome) rest
  | '0' :: 'o' :: rest => read 8 (fun c => '0' ≤ c && c ≤ '7') rest
  | '0' :: 'b' :: rest => read 2 (fun c => c = '0' || c = '1') rest
  | _ => none

def decimalInteger? (s : List Char) : Option Tree :=
  let (negative, unsigned) := sign s
  (wholePart? unsigned).bind fun digits => integerTree? negative (valueOf 10 digits)

/-- `mantissa * 10 ^ exponent` is too large for a double: it would be rounded up to `2 ^ 1024`. -/
def overflows (mantissa : Nat) (exponent : Int) : Bool :=
  let limit := Nat.pow 2 1024 - Nat.pow 2 970
  if mantissa = 0 then false
  else if exponent ≥ 0 then exponent > 400 || mantissa * Nat.pow 10 exponent.toNat ≥ limit
  else
    let places := (-exponent).toNat
    places ≤ 20000 && mantissa ≥ limit * Nat.pow 10 places

/-- The parts in front of and behind the first character with the property. -/
def splitFirst (p : Char → Bool) (s : List Char) : List Char × Option (List Char) :=
  match s.dropWhile (!p ·) with
  | [] => (s, none)
  | _ :: rest => (s.takeWhile (!p ·), some rest)

def float? (s : List Char) : Option Tree := do
  let (_, unsigned) := sign s
  let (body, power) := splitFirst (fun c => c = 'e' || c = 'E') unsigned
  let (whole, fraction) := splitFirst (· = '.') body
  if power.isNone && fraction.isNone then none
  else
    let whole ← wholePart? whole
    let fraction ← match fraction with
      | none => some []
      | some f => decimalDigits? f
    let exponent ← match power with
      | none => some 0
      | some p =>
        let (negative, p) := sign p
        (decimalDigits? p).map fun digits =>
          let n := valueOf 10 digits
          if negative then -(n : Int) else n
    if overflows (valueOf 10 (whole ++ fraction)) (exponent - fraction.length) then none
    else some (.other (String.ofList s))

def special? (s : List Char) : Option Tree :=
  let (_, unsigned) := sign s
  if unsigned = "inf".toList || unsigned = "nan".toList then some (.other (String.ofList s))
  else none

/-! ## Dates and times -/

/-- Exactly `n` digits, as a number, and the rest. -/
def number? (n : Nat) (s : List Char) : Option (Nat × List Char) :=
  let digits := s.take n
  if digits.length = n && digits.all (·.isDigit) then some (valueOf 10 digits, s.drop n) else none

def expect? (c : Char) (s : List Char) : Option (List Char) :=
  match s with
  | d :: rest => if d = c then some rest else none
  | [] => none

def daysIn (year month : Nat) : Nat :=
  let leap := year % 4 = 0 && (year % 100 ≠ 0 || year % 400 = 0)
  if month = 2 then if leap then 29 else 28
  else if [4, 6, 9, 11].contains month then 30
  else 31

/-- What is left behind a date. -/
def date? (s : List Char) : Option (List Char) := do
  let (year, s) ← number? 4 s
  let (month, s) ← number? 2 (← expect? '-' s)
  let (day, s) ← number? 2 (← expect? '-' s)
  if 1 ≤ month && month ≤ 12 && 1 ≤ day && day ≤ daysIn year month then some s else none

/-- What is left behind a time of day; seconds and their fraction may be missing. -/
def time? (s : List Char) : Option (List Char) := do
  let (hour, s) ← number? 2 s
  let (minute, s) ← number? 2 (← expect? ':' s)
  if hour > 23 || minute > 59 then none
  else
    match expect? ':' s with
    | none => some s
    | some s =>
      let (second, s) ← number? 2 s
      if second > 60 then none
      else
        match expect? '.' s with
        | none => some s
        | some s =>
          if (s.takeWhile (·.isDigit)).isEmpty then none else some (s.dropWhile (·.isDigit))

def offset? (s : List Char) : Bool :=
  match s with
  | [] => true
  | ['Z'] | ['z'] => true
  | c :: rest =>
    if c = '+' || c = '-' then
      let rest := do
        let (hours, s) ← number? 2 rest
        let (minutes, s) ← number? 2 (← expect? ':' s)
        if hours > 23 || minutes > 59 || !s.isEmpty then none else some ()
      rest.isSome
    else false

def isMoment (s : List Char) : Bool :=
  match date? s with
  | some [] => true
  | some (c :: rest) =>
    (c = 'T' || c = 't' || c = ' ') && match time? rest with
      | some rest => offset? rest
      | none => false
  | none =>
    match time? s with
    | some [] => true
    | _ => false

def moment? (s : List Char) : Option Tree :=
  if isMoment s then some (.other (String.ofList s)) else none

def scalar? (s : List Char) : Option Tree :=
  if s = "true".toList then some (.bool true)
  else if s = "false".toList then some (.bool false)
  else (prefixed? s).or ((decimalInteger? s).or ((float? s).or ((special? s).or (moment? s))))

end SlideConverter.Toml

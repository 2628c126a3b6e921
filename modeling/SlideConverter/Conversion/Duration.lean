/-!
# Lengths of time
-/

namespace SlideConverter

structure Duration where
  nanoseconds : Nat
deriving DecidableEq

namespace Duration

def ofMilliseconds (n : Nat) : Duration := ⟨n * 1000000⟩

def ofSeconds (n : Nat) : Duration := ⟨n * 1000000000⟩

def milliseconds (d : Duration) : Nat := d.nanoseconds / 1000000

/-- `n / 10 ^ places` in positional notation, without zeros at the end. -/
def decimal (n places : Nat) : String :=
  let whole := n / Nat.pow 10 places
  let digits := (List.range places).map fun i => (n / Nat.pow 10 (places - 1 - i) % 10).digitChar
  let kept := (digits.reverse.dropWhile (· == '0')).reverse
  if kept.isEmpty then toString whole else toString whole ++ "." ++ String.ofList kept

/-- In the largest of seconds, milliseconds, microseconds and nanoseconds that reaches 1. -/
def describe (d : Duration) : String :=
  if d.nanoseconds ≥ 1000000000 then decimal d.nanoseconds 9 ++ "s"
  else if d.nanoseconds ≥ 1000000 then decimal d.nanoseconds 6 ++ "ms"
  else if d.nanoseconds ≥ 1000 then decimal d.nanoseconds 3 ++ "µs"
  else decimal d.nanoseconds 0 ++ "ns"

end Duration

end SlideConverter

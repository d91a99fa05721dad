import ControlPlane.Json.Number

/-! Spans of time in whole nanoseconds. -/

namespace ControlPlane

/-- A span of time. -/
structure Duration where
  nanoseconds : Nat
deriving DecidableEq, Repr, Inhabited

namespace Duration

/-- A number of seconds. -/
def ofSeconds (n : Nat) : Duration := ⟨n * 1000000000⟩

/-- A number of milliseconds. -/
def ofMillis (n : Nat) : Duration := ⟨n * 1000000⟩

/-- The whole seconds of a span. -/
def seconds (d : Duration) : Nat := d.nanoseconds / 1000000000

/-- What a span has beyond its whole seconds. -/
def subsecond (d : Duration) : Nat := d.nanoseconds % 1000000000

/-- A whole number with a fraction of so many digits, without the zeros at its end. -/
def decimalText (whole fraction digits : Nat) : String :=
  let written := Nat.toDigits 10 fraction
  let padded := List.replicate (digits - written.length) '0' ++ written
  let kept := (padded.reverse.dropWhile (· == '0')).reverse
  Json.Literal.natText whole ++ if kept.isEmpty then "" else "." ++ String.ofList kept

/-- A span in the largest unit of which it has one. -/
def text (d : Duration) : String :=
  if 0 < d.seconds then decimalText d.seconds d.subsecond 9 ++ "s"
  else if 1000000 ≤ d.subsecond then
    decimalText (d.subsecond / 1000000) (d.subsecond % 1000000) 6 ++ "ms"
  else if 1000 ≤ d.subsecond then
    decimalText (d.subsecond / 1000) (d.subsecond % 1000) 3 ++ "µs"
  else decimalText d.subsecond 0 0 ++ "ns"

end Duration

end ControlPlane

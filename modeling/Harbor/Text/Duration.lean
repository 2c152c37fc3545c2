/-!
# Spans of time in words

A span is shown in the largest of `s`, `ms`, `µs` and `ns` in which it is at
least one, as a decimal without trailing zeros: `2s`, `1.5ms`, `1.001µs`, `0ns`.
-/

namespace Harbor.Text

/-- The digits after the point of `part / 10 ^ places`, without trailing zeros. -/
def fractionDigits (part places : Nat) : List Char :=
  let digits := Nat.toDigits 10 part
  let padded := List.replicate (places - digits.length) '0' ++ digits
  (padded.reverse.dropWhile (· == '0')).reverse

/-- `whole + part / 10 ^ places` as a decimal. -/
def decimalText (whole part places : Nat) : String :=
  match fractionDigits part places with
  | [] => toString whole
  | ds => toString whole ++ "." ++ String.ofList ds

/-- A span of nanoseconds in words. -/
def durationText (nanos : Nat) : String :=
  if 1000000000 ≤ nanos then decimalText (nanos / 1000000000) (nanos % 1000000000) 9 ++ "s"
  else if 1000000 ≤ nanos then decimalText (nanos / 1000000) (nanos % 1000000) 6 ++ "ms"
  else if 1000 ≤ nanos then decimalText (nanos / 1000) (nanos % 1000) 3 ++ "µs"
  else toString nanos ++ "ns"

end Harbor.Text

/-!
# Durations

A duration is a whole number of nanoseconds. It is written in the largest unit that makes its
integer part nonzero, followed by the exact fraction without trailing zeros: `1.5s`, `50ms`, `1µs`,
`0ns`.
-/

namespace SignatureAudit

/-- A length of time. -/
structure Duration where
  nanoseconds : Nat
  deriving DecidableEq, Repr

namespace Duration

/-- A number of seconds. -/
def ofSeconds (n : Nat) : Duration := ⟨n * 1000000000⟩

/-- The fraction `part / 10 ^ places` in decimal digits, without trailing zeros. -/
def fraction (places part : Nat) : List Char :=
  let digits := (Nat.toDigits 10 part)
  let padded := List.replicate (places - digits.length) '0' ++ digits
  (padded.reverse.dropWhile (· == '0')).reverse

/-- A number of nanoseconds in a unit of `10 ^ places` nanoseconds. -/
def inUnit (places : Nat) (unit : String) (n : Nat) : String :=
  let part := n % Nat.pow 10 places
  toString (n / Nat.pow 10 places) ++
    (if part = 0 then "" else "." ++ String.ofList (fraction places part)) ++ unit

/-- The text of a duration. -/
def text (d : Duration) : String :=
  let n := d.nanoseconds
  if 1000000000 ≤ n then inUnit 9 "s" n
  else if 1000000 ≤ n then inUnit 6 "ms" n
  else if 1000 ≤ n then inUnit 3 "µs" n
  else inUnit 0 "ns" n

end Duration

end SignatureAudit

/-!
# Decimal texts of fractions

A magnitude is a fraction of natural numbers. It is written with a given number of places, with a
given number of significant digits and an exponent, or in the shorter of both ways. What is written
is the nearest decimal number, and of two that are equally near the even one (`roundDiv`).
-/

namespace SignatureAudit.Emulation

/-- The quotient of two numbers, rounded to the nearest number; a half goes to the even neighbour.
-/
def roundDiv (n d : Nat) : Nat :=
  if 2 * (n % d) < d || (2 * (n % d) = d && n / d % 2 = 0) then n / d else n / d + 1

/-- A fraction of natural numbers. -/
structure Magnitude where
  numerator : Nat
  denominator : Nat
  deriving DecidableEq, Repr

namespace Magnitude

/-- A text of at least so many characters, with zeros in front. -/
def padded (length : Nat) (text : String) : String :=
  String.ofList (List.replicate (length - text.length) '0') ++ text

/-- Digits with a point in front of so many of them. -/
def pointed (places n : Nat) : String :=
  let digits := (padded (places + 1) (toString n)).toList
  let whole := String.ofList (digits.take (digits.length - places))
  if places = 0 then whole
  else whole ++ "." ++ String.ofList (digits.drop (digits.length - places))

/-- A magnitude with so many places. -/
def fixed (q : Magnitude) (places : Nat) : String :=
  pointed places (roundDiv (q.numerator * Nat.pow 10 places) q.denominator)

/-- The number that is nearest to a magnitude times a power of ten. -/
def scaled (q : Magnitude) (power : Int) : Nat :=
  match power with
  | .ofNat p => roundDiv (q.numerator * Nat.pow 10 p) q.denominator
  | .negSucc p => roundDiv q.numerator (q.denominator * Nat.pow 10 (p + 1))

/-- Whether a magnitude is less than a power of ten. -/
def isBelow (q : Magnitude) (power : Int) : Bool :=
  match power with
  | .ofNat p => q.numerator < q.denominator * Nat.pow 10 p
  | .negSucc p => q.numerator * Nat.pow 10 (p + 1) < q.denominator

/-- The exponent of the first digit of a magnitude. -/
def exponent (q : Magnitude) : Int :=
  if q.numerator = 0 then 0
  else
    let guess : Int := (toString q.numerator).length - (toString q.denominator).length
    if q.isBelow guess then guess - 1 else guess

/-- So many digits behind the first one, as a number, and the exponent of the first one. -/
def significant (q : Magnitude) (places : Nat) : Nat × Int :=
  let e := q.exponent
  let n := q.scaled (places - e)
  if n = Nat.pow 10 (places + 1) then (n / 10, e + 1) else (n, e)

/-- An exponent with its sign and at least two digits. -/
def exponentText (e : Int) : String :=
  (if e < 0 then "-" else "+") ++ padded 2 (toString e.natAbs)

/-- A magnitude with an exponent. -/
def scientific (q : Magnitude) (places : Nat) : String :=
  let (n, e) := q.significant places
  pointed places n ++ "e" ++ exponentText e

/-- A number without the zeros behind its last place that counts. -/
def shortened (text : String) : String :=
  if text.toList.contains '.' then
    let cs := text.toList.reverse.dropWhile (· == '0')
    String.ofList (cs.dropWhile (· == '.')).reverse
  else text

/-- A magnitude with so many significant digits, in the shorter way; perhaps all digits are kept. -/
def general (q : Magnitude) (digits : Nat) (keeps : Bool) : String :=
  let digits := max 1 digits
  let (n, e) := q.significant (digits - 1)
  let short (text : String) : String := if keeps then text else shortened text
  if -4 ≤ e && e < digits then short (q.fixed (digits - 1 - e).toNat)
  else short (pointed (digits - 1) n) ++ "e" ++ exponentText e

/-- The magnitude that digits and a power of ten write. -/
def ofDecimal (digits : Nat) (power : Int) : Magnitude :=
  match power with
  | .ofNat p => ⟨digits * Nat.pow 10 p, 1⟩
  | .negSucc p => ⟨digits, Nat.pow 10 (p + 1)⟩

/-- Reads the exponent at the front of a text, if there is one; tells with how many characters it is
written. -/
def readExponent (cs : List Char) : Int × Nat :=
  match cs with
  | [] => (0, 0)
  | mark :: rest =>
    let signs := (rest.take 1).filter fun c => c == '-' || c == '+'
    let digits := (rest.drop signs.length).takeWhile Char.isDigit
    if (mark == 'e' || mark == 'E') && !digits.isEmpty then
      let n : Nat := digits.foldl (fun n c => 10 * n + (c.toNat - 48)) 0
      (if signs == ['-'] then -(n : Int) else n, 1 + signs.length + digits.length)
    else (0, 0)

/-- Reads digits, perhaps with a point among them and an exponent behind them: the number without
the point, the power of ten to multiply it by, and with how many characters all is written. -/
def read? (cs : List Char) : Option (Nat × Int × Nat) :=
  let whole := cs.takeWhile Char.isDigit
  let rest := cs.drop whole.length
  let places := match rest with
    | '.' :: rest => rest.takeWhile Char.isDigit
    | _ => []
  let pointLength := if rest.head? == some '.' then places.length + 1 else 0
  if whole.isEmpty && places.isEmpty then none
  else
    let digits : Nat := (whole ++ places).foldl (fun n c => 10 * n + (c.toNat - 48)) 0
    let (power, powerLength) := readExponent (rest.drop pointLength)
    some (digits, power - places.length, whole.length + pointLength + powerLength)

/-- The nearest magnitude with so many binary digits. -/
def rounded (q : Magnitude) (bits : Nat) : Magnitude :=
  if q.numerator = 0 then q
  else
    let low := Nat.log2 q.numerator
    let high := Nat.log2 q.denominator
    if high + bits ≤ low then
      let unit := Nat.pow 2 (low - high - bits)
      ⟨roundDiv q.numerator (q.denominator * unit) * unit, 1⟩
    else
      let unit := Nat.pow 2 (high + bits - low)
      let n := roundDiv (q.numerator * unit) q.denominator
      if n < Nat.pow 2 bits then ⟨n, unit⟩
      else ⟨roundDiv (q.numerator * (unit / 2)) q.denominator, unit / 2⟩

end Magnitude

/-- A number of a calculation. -/
inductive Quantity
  | finite (negative : Bool) (magnitude : Magnitude)
  | infinite (negative : Bool)
  | undefined (negative : Bool)
  deriving DecidableEq, Repr

/-- The number that the bits of a float stand for. -/
def Quantity.ofBits (bits : UInt64) : Quantity :=
  let word := bits.toNat
  let negative := Nat.pow 2 63 ≤ word
  let exponent := word / Nat.pow 2 52 % 2048
  let fraction := word % Nat.pow 2 52
  if exponent = 2047 then if fraction = 0 then .infinite negative else .undefined negative
  else
    let (m, e) := if exponent = 0 then (fraction, 1) else (fraction + Nat.pow 2 52, exponent)
    if 1075 ≤ e then .finite negative ⟨m * Nat.pow 2 (e - 1075), 1⟩
    else .finite negative ⟨m, Nat.pow 2 (1075 - e)⟩

end SignatureAudit.Emulation

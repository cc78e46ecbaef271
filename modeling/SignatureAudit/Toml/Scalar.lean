import SignatureAudit.Text.Digit
import SignatureAudit.Text.Search
import SignatureAudit.Toml.Basic

/-!
# Numbers, truth values and dates in TOML

A scalar without quotes runs up to a blank, a line end, a comma, a closing bracket or a comment.
Digits may be separated by single underscores; integers fit in 64 bits with sign, and a float must
not be too large for a double.
-/

namespace SignatureAudit.Toml

/-- Digits of one kind, which single underscores may separate. -/
def digits? (isDigit : Char → Bool) (cs : List Char) : Option (List Char) :=
  let groups := Text.piecesFrom ['_'] 0 cs
  if groups.all fun group => !group.isEmpty && group.all isDigit then some groups.flatten else none

/-- A sign in front of a number, taken off. -/
def unsigned : List Char → List Char
  | '+' :: rest => rest
  | '-' :: rest => rest
  | cs => cs

/-- The digits of a decimal number without superfluous zeros in front. -/
def decimal? (cs : List Char) : Option (List Char) := do
  let digits ← digits? Char.isDigit cs
  match digits with
  | '0' :: _ :: _ => none
  | digits => some digits

/-- The value of digits in a base. -/
def inBase (base : Nat) (digits : List Char) : Nat :=
  digits.foldl (fun n c => n * base + (Text.hexDigit? c).getD 0) 0

/-- An integer in decimal, or without sign in base 16, 8 or 2. -/
def integer? (cs : List Char) : Option Int := do
  let value : Int ← match cs with
    | '0' :: 'x' :: rest => do
      some (inBase 16 (← digits? (fun c => (Text.hexDigit? c).isSome) rest))
    | '0' :: 'o' :: rest => do some (inBase 8 (← digits? (fun c => '0' ≤ c && c ≤ '7') rest))
    | '0' :: 'b' :: rest => do some (inBase 2 (← digits? (fun c => c == '0' || c == '1') rest))
    | '-' :: rest => do some (-(inBase 10 (← decimal? rest) : Int))
    | cs => do some (inBase 10 (← decimal? (unsigned cs)))
  if Int64.minValue.toInt ≤ value ∧ value ≤ Int64.maxValue.toInt then some value else none

/-- Whether `mantissa * 10 ^ exponent` is too large for a double: at least halfway from the largest
double to the next power of two. -/
def overflows (mantissa : Nat) (exponent : Int) : Bool :=
  let size := (Nat.toDigits 10 mantissa).length + exponent
  if mantissa = 0 || size < 300 then false
  else if 320 < size then true
  else
    let bound := Nat.pow 2 1024 - Nat.pow 2 970
    if 0 ≤ exponent then bound ≤ mantissa * Nat.pow 10 exponent.toNat
    else bound * Nat.pow 10 (-exponent).toNat ≤ mantissa

/-- The text before and after the exponent mark of a number. -/
def cutExponent (cs : List Char) : List Char × Option (List Char) :=
  match cs.dropWhile fun c => c ≠ 'e' && c ≠ 'E' with
  | _ :: exponent => (cs.takeWhile fun c => c ≠ 'e' && c ≠ 'E', some exponent)
  | [] => (cs, none)

/-- Whether a text is a float: a decimal integer with a fraction or an exponent or both, or a
special value. -/
def isFloat (cs : List Char) : Bool :=
  let body := unsigned cs
  body = ['i', 'n', 'f'] || body = ['n', 'a', 'n'] || (do
    let (number, exponent?) := cutExponent body
    let (whole, fraction?) := match number.dropWhile (· ≠ '.') with
      | _ :: fraction => (number.takeWhile (· ≠ '.'), some fraction)
      | [] => (number, none)
    let whole ← decimal? whole
    let fraction ← match fraction? with
      | some fraction => digits? Char.isDigit fraction
      | none => some []
    let exponent ← match exponent? with
      | some exponent => do
        let size ← digits? Char.isDigit (unsigned exponent)
        some (if exponent.head? = some '-' then -(inBase 10 size : Int) else inBase 10 size)
      | none => some 0
    let negative := cs.head? = some '-'
    some ((fraction?.isSome || exponent?.isSome) && (negative
      || !overflows (inBase 10 (whole ++ fraction)) (exponent - fraction.length)))).getD false

/-- A number of two digits. -/
def pair? : Char → Char → Option Nat
  | a, b => if a.isDigit && b.isDigit then some (Text.digitsValue [a, b]) else none

/-- The number of days of a month. -/
def daysIn (year month : Nat) : Nat :=
  if month = 2 then
    if year % 4 = 0 && (year % 100 ≠ 0 || year % 400 = 0) then 29 else 28
  else if month = 4 || month = 6 || month = 9 || month = 11 then 30
  else 31

/-- What follows a date `YYYY-MM-DD`. -/
def afterDate? : List Char → Option (List Char)
  | y₁ :: y₂ :: y₃ :: y₄ :: '-' :: m₁ :: m₂ :: '-' :: d₁ :: d₂ :: rest => do
    let year := (← pair? y₁ y₂) * 100 + (← pair? y₃ y₄)
    let month ← pair? m₁ m₂
    let day ← pair? d₁ d₂
    if 1 ≤ month ∧ month ≤ 12 ∧ 1 ≤ day ∧ day ≤ daysIn year month then some rest else none
  | _ => none

/-- What follows the fraction of a second, if there is one. -/
def afterFraction? : List Char → Option (List Char)
  | '.' :: c :: rest => if c.isDigit then some (rest.dropWhile Char.isDigit) else none
  | '.' :: _ => none
  | cs => some cs

/-- What follows a time `HH:MM:SS`; a second may be a leap second. -/
def afterTime? : List Char → Option (List Char)
  | h₁ :: h₂ :: ':' :: m₁ :: m₂ :: ':' :: s₁ :: s₂ :: rest => do
    let hour ← pair? h₁ h₂
    let minute ← pair? m₁ m₂
    let second ← pair? s₁ s₂
    if hour ≤ 23 ∧ minute ≤ 59 ∧ second ≤ 60 then afterFraction? rest else none
  | _ => none

/-- Whether a text is an offset from universal time. -/
def isOffset : List Char → Bool
  | ['Z'] | ['z'] => true
  | [sign, h₁, h₂, ':', m₁, m₂] =>
    (sign = '+' || sign = '-') && (do
      let hour ← pair? h₁ h₂
      let minute ← pair? m₁ m₂
      some (decide (hour ≤ 23 ∧ minute ≤ 59))).getD false
  | _ => false

/-- Whether a text is a date, a time, or a date with a time and perhaps an offset. -/
def isDateTime (cs : List Char) : Bool :=
  match afterDate? cs with
  | none => afterTime? cs == some []
  | some [] => true
  | some (mark :: time) =>
    (mark = 'T' || mark = 't' || mark = ' ') &&
      match afterTime? time with
      | some offset => offset.isEmpty || isOffset offset
      | none => false

/-- The value of a scalar without quotes. -/
def scalar? (cs : List Char) : Option Toml :=
  if cs = ['t', 'r', 'u', 'e'] then some (.boolean true)
  else if cs = ['f', 'a', 'l', 's', 'e'] then some (.boolean false)
  else if isDateTime cs then some .dateTime
  else if isFloat cs then some .float
  else (integer? cs).map .integer

end SignatureAudit.Toml

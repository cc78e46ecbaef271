import SignatureAudit.Emulation.Text.Magnitude

/-!
# Directives of formats

A directive says how an argument is written: it has flags, a width, a precision, and a letter for
what is written. `Directive.read?` reads one, the other functions write what it asks for.
-/

namespace SignatureAudit.Emulation

/-- How an argument is written. -/
structure Directive where
  flags : List Char := []
  width : Nat := 0
  precision? : Option Nat := none
  deriving Repr

/-- A number in a directive, which may be an argument itself. -/
inductive DirectiveNumber
  | given (n : Nat)
  | argument
  deriving DecidableEq, Repr

/-- A directive as it stands in a format. -/
structure DirectiveText where
  flags : List Char
  width : DirectiveNumber
  precision? : Option DirectiveNumber
  /-- Letters that tell the size of a number, which does not matter. -/
  sizes : List Char
  /-- The letter that says what is written; it is missing at the end of a format. -/
  letter? : Option Char
  /-- The number of characters behind the percent sign. -/
  length : Nat
  deriving Repr

namespace DirectiveText

/-- Reads a number of a directive; tells with how many characters it is written. -/
def number (cs : List Char) : DirectiveNumber × Nat :=
  match cs with
  | '*' :: _ => (.argument, 1)
  | cs =>
    let digits := cs.takeWhile Char.isDigit
    (.given (digits.foldl (fun n c => 10 * n + (c.toNat - 48)) 0), digits.length)

/-- Reads a directive behind its percent sign. -/
def read (cs : List Char) : DirectiveText :=
  let flags := cs.takeWhile fun c => ['-', '+', ' ', '#', '0', '\''].contains c
  let rest := cs.drop flags.length
  let (width, used) := number rest
  let rest := rest.drop used
  let (precision?, precisionUsed) := match rest with
    | '.' :: rest =>
      let (n, used) := number rest
      (some n, used + 1)
    | _ => (none, 0)
  let rest := rest.drop precisionUsed
  let sizes := rest.takeWhile fun c => ['h', 'l', 'L', 'j', 't', 'z', 'q'].contains c
  let letter? := (rest.drop sizes.length)[0]?
  { flags, width, precision?, sizes, letter?
    length := flags.length + used + precisionUsed + sizes.length
      + if letter?.isSome then 1 else 0 }

end DirectiveText

namespace Directive

/-- Whether a directive has a flag. -/
def has (d : Directive) (flag : Char) : Bool := d.flags.contains flag

/-- A text that fills the width. -/
def pad (d : Directive) (text : String) : String :=
  let space := String.ofList (List.replicate (d.width - text.length) ' ')
  if d.has '-' then text ++ space else space ++ text

/-- Digits that fill the width behind what stands in front of them. -/
def padNumber (d : Directive) (zeros : Bool) (front digits : String) : String :=
  if zeros && d.has '0' && !d.has '-' then
    front ++ String.ofList (List.replicate (d.width - front.length - digits.length) '0') ++ digits
  else d.pad (front ++ digits)

/-- The sign of a number. -/
def sign (d : Directive) (negative : Bool) : String :=
  if negative then "-" else if d.has '+' then "+" else if d.has ' ' then " " else ""

/-- The digits of a number, with as many zeros in front as the precision asks for. -/
def precise (d : Directive) (digits : String) : String :=
  match d.precision? with
  | some 0 => if digits = "0" then "" else digits
  | some p => Magnitude.padded p digits
  | none => digits

/-- Writes an integer. -/
def integer (d : Directive) (n : Int) : String :=
  d.padNumber d.precision?.isNone (d.sign (n < 0)) (d.precise (toString n.natAbs))

/-- Writes a natural number in a base. -/
def natural (d : Directive) (base : Nat) (upper : Bool) (n : Nat) : String :=
  let digits := String.ofList (Nat.toDigits base n)
  let digits := d.precise (if upper then digits.toUpper else digits)
  let marked := d.has '#' && n ≠ 0
  let digits := if marked && base = 8 && digits.toList.head? != some '0' then "0" ++ digits
    else digits
  let front := if marked && base = 16 then if upper then "0X" else "0x" else ""
  d.padNumber d.precision?.isNone front digits

/-- Writes a text. -/
def text (d : Directive) (s : String) : String :=
  d.pad (match d.precision? with
    | some p => String.ofList (s.toList.take p)
    | none => s)

/-- Writes a number with a point. -/
def quantity (d : Directive) (letter : Char) (q : Quantity) : String :=
  let upper := letter.isUpper
  let cased (text : String) : String := if upper then text.toUpper else text
  match q with
  | .infinite negative => d.pad (cased (d.sign negative ++ "inf"))
  | .undefined negative => d.pad (cased (d.sign negative ++ "nan"))
  | .finite negative m =>
    let precision := d.precision?.getD 6
    let digits := match letter.toLower with
      | 'f' => m.fixed precision
      | 'e' => m.scientific precision
      | _ => m.general precision (d.has '#')
    let digits := if d.has '#' && precision = 0 && letter.toLower == 'f' then digits ++ "."
      else digits
    d.padNumber true (d.sign negative) (cased digits)

end Directive

end SignatureAudit.Emulation

import SignatureAudit.Text.Digit
import SignatureAudit.Toml.Space

/-!
# Strings in TOML

A string is basic, with escapes, or literal, without; either may span lines. A line end inside a
string is a newline however it is written.
-/

namespace SignatureAudit.Toml

/-- The character of a code point, if there is one. -/
def ofCode? (code : Nat) : Option Char :=
  if code < 0xD800 || (0xE000 ≤ code && code < 0x110000) then some (Char.ofNat code) else none

/-- The character of a one-letter escape. -/
def shortEscape? : Char → Option Char
  | 'b' => some '\x08'
  | 't' => some '\t'
  | 'n' => some '\n'
  | 'f' => some '\x0c'
  | 'r' => some '\r'
  | '"' => some '"'
  | '\\' => some '\\'
  | _ => none

/-- Reads the character whose code the given number of hexadecimal digits write. -/
def coded? (digits : Nat) (cs : List Char) : Option (Char × Leftover cs) := do
  let (code, left) ← Text.hex? digits cs
  some (← ofCode? code, left)

/-- Reads an escape behind its backslash. -/
def escape? : (cs : List Char) → Option (Char × Remainder cs)
  | 'u' :: rest => (coded? 4 rest).map fun (c, left) => (c, Remainder.tail.shrink left)
  | 'U' :: rest => (coded? 8 rest).map fun (c, left) => (c, Remainder.tail.shrink left)
  | c :: _ => (shortEscape? c).map fun e => (e, .tail)
  | [] => none

/-- Reads a basic string of one line behind its opening quote. -/
def basic? (cs : List Char) : Option (List Char × Remainder cs) :=
  match cs with
  | [] => none
  | c :: rest =>
    if c = '"' then some ([], .tail)
    else if c = '\\' then do
      let (e, left) ← escape? rest
      let (text, last) ← basic? left.val
      some (e :: text, Remainder.tail.widen (left.widen last))
    else if isPlain c then do
      let (text, last) ← basic? rest
      some (c :: text, Remainder.tail.widen last)
    else none
termination_by cs.length
decreasing_by
  · have := left.property
    simp
    omega
  · simp

/-- Reads a literal string of one line behind its opening quote. -/
def literal? : (cs : List Char) → Option (List Char × Remainder cs)
  | [] => none
  | c :: rest =>
    if c = '\'' then some ([], .tail)
    else if isPlain c then do
      let (text, last) ← literal? rest
      some (c :: text, Remainder.tail.widen last)
    else none

/-- The number of quotes, at most five, at the front of a text. -/
def quotes (quote : Char) (cs : List Char) : Nat := min 5 (cs.takeWhile (· == quote)).length

/-- What is left behind at least one character. -/
def dropped {cs : List Char} (n : Nat) (some : 0 < n) (fits : n ≤ cs.length) : Remainder cs :=
  ⟨cs.drop n, by simp; omega⟩

theorem quotes_le (quote : Char) (cs : List Char) : quotes quote cs ≤ cs.length :=
  Nat.le_trans (Nat.min_le_right ..) (List.takeWhile_sublist _).length_le

/-- What follows spaces and a line end, and all further spaces and line ends. -/
def continued? (cs : List Char) : Option (Remainder cs) := do
  let left ← lineEnd? (cs.dropWhile isSpace)
  some ((left.shrink ⟨_, afterSpace_length_le left.val⟩).behind isSpace)

/-- Reads a string of several lines behind its opening quotes; `escapes` tells whether it is a basic
one. Up to two quotes may stand in front of the closing ones. -/
def lines? (quote : Char) (escapes : Bool) (cs : List Char) : Option (List Char × Remainder cs) :=
  match cs with
  | [] => none
  | c :: rest =>
    if 3 ≤ quotes quote (c :: rest) then
      some (List.replicate (quotes quote (c :: rest) - 3) quote,
        if p : 0 < quotes quote (c :: rest) then dropped _ p (quotes_le quote _) else .tail)
    else
      match lineEnd? (c :: rest) with
      | some left => do
        let (text, last) ← lines? quote escapes left.val
        some ('\n' :: text, left.widen last)
      | none =>
        if c = '\\' && escapes then
          match continued? rest with
          | some left => do
            let (text, last) ← lines? quote escapes left.val
            some (text, Remainder.tail.widen (left.widen last))
          | none => do
            let (e, left) ← escape? rest
            let (text, last) ← lines? quote escapes left.val
            some (e :: text, Remainder.tail.widen (left.widen last))
        else if isPlain c then do
          let (text, last) ← lines? quote escapes rest
          some (c :: text, Remainder.tail.widen last)
        else none
termination_by cs.length
decreasing_by
  · exact left.property
  · have := left.property
    simp
    omega
  · have := left.property
    simp
    omega
  · simp

/-- What follows three quotes. -/
def triple {a b c : Char} {rest : List Char} : Remainder (a :: b :: c :: rest) :=
  Remainder.tail.widen (Remainder.tail.widen .tail)

/-- Reads a string at the front of a text. -/
def string? (cs : List Char) : Option (String × Remainder cs) :=
  match cs with
  | '"' :: '"' :: '"' :: rest => do
    match lineEnd? rest with
    | some left =>
      let (text, last) ← lines? '"' true left.val
      some (String.ofList text, triple.widen (left.widen last))
    | none =>
      let (text, last) ← lines? '"' true rest
      some (String.ofList text, triple.widen last)
  | '\'' :: '\'' :: '\'' :: rest => do
    match lineEnd? rest with
    | some left =>
      let (text, last) ← lines? '\'' false left.val
      some (String.ofList text, triple.widen (left.widen last))
    | none =>
      let (text, last) ← lines? '\'' false rest
      some (String.ofList text, triple.widen last)
  | '"' :: rest => do
    let (text, last) ← basic? rest
    some (String.ofList text, Remainder.tail.widen last)
  | '\'' :: rest => do
    let (text, last) ← literal? rest
    some (String.ofList text, Remainder.tail.widen last)
  | _ => none

end SignatureAudit.Toml

import SignatureAudit.Emulation.Text.Magnitude
import SignatureAudit.Emulation.Utility.Place

/-!
# Bytes as text

The programs that show the bytes of their input: as numbers in columns, or in an alphabet of letters
that any text can hold.
-/

namespace SignatureAudit.Emulation.Utility

open Shell (Running Machine Utility)
open Shell.Running (print printLine)

namespace Dump

/-- How units of bytes are shown. -/
inductive UnitForm
  | letters
  | names
  | number (base size : Nat) (signed : Bool)
  deriving DecidableEq, Repr

/-- The number of bytes of a unit. -/
def UnitForm.size : UnitForm → Nat
  | .letters | .names => 1
  | .number _ size _ => size

/-- Text behind as many blanks as a column needs. -/
def column (width : Nat) (text : String) : String :=
  String.ofList (List.replicate (width - text.length) ' ') ++ text

/-- A byte as a letter. -/
def letterOf (byte : Nat) : String :=
  match byte with
  | 0 => "\\0"
  | 7 => "\\a"
  | 8 => "\\b"
  | 9 => "\\t"
  | 10 => "\\n"
  | 11 => "\\v"
  | 12 => "\\f"
  | 13 => "\\r"
  | _ =>
    if 32 ≤ byte && byte < 127 then String.singleton (Char.ofNat byte)
    else Magnitude.padded 3 (String.ofList (Nat.toDigits 8 byte))

/-- The names of the bytes that are no letters. -/
def byteNames : List String :=
  ["nul", "soh", "stx", "etx", "eot", "enq", "ack", "bel", "bs", "ht", "nl", "vt", "ff", "cr", "so",
   "si", "dle", "dc1", "dc2", "dc3", "dc4", "nak", "syn", "etb", "can", "em", "sub", "esc", "fs",
   "gs",
   "rs", "us", "sp"]

/-- A byte by its name. -/
def nameOf (byte : Nat) : String :=
  let byte := byte % 128
  match byteNames[byte]? with
  | some name => name
  | none => if byte = 127 then "del" else String.singleton (Char.ofNat byte)

/-- The number that bytes write; the last one counts most. -/
def valueOf (bytes : List Nat) : Nat := bytes.foldr (fun byte n => 256 * n + byte) 0

/-- A unit of bytes in its column. -/
def UnitForm.show (form : UnitForm) (bytes : List Nat) : String :=
  match form with
  | .letters => column 4 (letterOf (bytes.headD 0))
  | .names => column 4 (nameOf (bytes.headD 0))
  | .number base size signed =>
    let n := valueOf bytes
    let limit := Nat.pow 256 size
    let digits (n : Nat) : String := String.ofList (Nat.toDigits base n)
    let width := (digits (limit - 1)).length
    if signed then
      let negative := limit ≤ 2 * n
      let text := if negative then "-" ++ digits (limit - n) else digits n
      column ((digits (limit / 2)).length + 2) text
    else if base = 10 then column (width + 1) (digits n)
    else " " ++ Magnitude.padded width (digits n)

/-- The form that a type writes, if it is known. -/
def form? (text : String) : Option UnitForm :=
  let sized (base : Nat) (signed : Bool) (rest : List Char) : Option UnitForm :=
    match rest with
    | [] => some (.number base 4 signed)
    | ['C'] => some (.number base 1 signed)
    | ['S'] => some (.number base 2 signed)
    | ['I'] => some (.number base 4 signed)
    | ['L'] => some (.number base 8 signed)
    | [c] =>
      if ['1', '2', '4', '8'].contains c then some (.number base (c.toNat - 48) signed) else none
    | _ => none
  match text.toList with
  | ['c'] => some .letters
  | ['a'] => some .names
  | 'o' :: rest => sized 8 false rest
  | 'x' :: rest => sized 16 false rest
  | 'u' :: rest => sized 10 false rest
  | 'd' :: rest => sized 10 true rest
  | _ => none

/-- A position as it stands in front of a line. -/
def position (radix : String) (n : Nat) : String :=
  match radix with
  | "n" => ""
  | "d" => Magnitude.padded 7 (toString n)
  | "x" => Magnitude.padded 6 (String.ofList (Nat.toDigits 16 n))
  | _ => Magnitude.padded 7 (String.ofList (Nat.toDigits 8 n))

/-- A list in parts of a size; the bound is that of their number. -/
def chunks {α : Type} (size : Nat) : (bound : Nat) → List α → List (List α)
  | 0, _ => []
  | bound + 1, items =>
    if items.isEmpty then [] else items.take size :: chunks size bound (items.drop size)

/-- The lines that show bytes. Of equal lines behind each other only the first is shown. -/
def linesFor (form : UnitForm) (radix : String) (all : Bool) (start : Nat) (bytes : List Nat) :
    List String :=
  let rows := chunks 16 (bytes.length + 1) bytes
  let last := rows.length - 1
  let step (s : List String × Option (List Nat) × Bool) (row : List Nat × Nat) :
      List String × Option (List Nat) × Bool :=
    let (lines, before?, marked) := s
    if !all && before? = some row.1 && row.1.length = 16 && row.2 < last then
      (if marked then lines else "*" :: lines, before?, true)
    else
      let units := chunks form.size (row.1.length + 1) row.1
      let text := String.join (units.map form.show)
      ((position radix (start + 16 * row.2) ++ text) :: lines, some row.1, false)
  let (lines, _, _) := rows.zipIdx.foldl step ([], none, false)
  let finish := position radix (start + bytes.length)
  (if finish = "" then lines else finish :: lines).reverse

/-- The bytes of a text. -/
def bytesOf (text : String) : List Nat := text.toList.map Char.toNat

end Dump

open Dump in
/-- Shows bytes in columns. -/
def od : Utility := fun _ =>
  withOptions [letter 'c', letter 'x', letter 'b', letter 'o', letter 'd', letter 'a',
    letter 'v' ["output-duplicates"], taking 'A' ["address-radix"], taking 't' ["format"],
    taking 'N' ["read-bytes"], taking 'j' ["skip-bytes"], taking 'w' ["width"]] fun g => do
      let named := g.options.reverse.findSome? fun (name, value) =>
        match name with
        | "t" => some value
        | "c" | "a" => some name
        | "x" => some "x2"
        | "b" => some "o1"
        | "o" => some "o2"
        | "d" => some "u2"
        | _ => none
      let written := named.getD "o2"
      match form? written with
      | none =>
        fail ("invalid character '" ++ String.ofList (written.toList.take 1) ++ "' in type string "
          ++ quoted written)
      | some form => do
        let mut text := ""
        let mut outcome := 0
        for path in if g.operands.isEmpty then ["-"] else g.operands do
          match ← textOf path with
          | .ok part => text := text ++ part
          | .error fault =>
            warn (shown path ++ ": " ++ fault.reason)
            outcome := 1
        if outcome = 1 && text = "" then pure 1
        else
          let number (name : String) : Option Nat := (g.last? name).bind String.toNat?
          let start := (number "j").getD 0
          let bytes := (bytesOf text).drop start
          let bytes := match number "N" with
            | some most => bytes.take most
            | none => bytes
          printLines (linesFor form ((g.last? "A").getD "o") (g.has "v") start bytes)
          pure outcome

namespace Alphabet

/-- The letters that stand for six bits each. -/
def letters : List Char :=
  "ABCDEFGHIJKLMNOPQRSTUVWXYZabcdefghijklmnopqrstuvwxyz0123456789+/".toList

/-- Bytes in letters: three bytes are four letters. -/
def encode : List Nat → List Char
  | a :: b :: c :: rest =>
    let n := 65536 * a + 256 * b + c
    let letter (k : Nat) : Char := letters.getD (n / Nat.pow 64 k % 64) '='
    letter 3 :: letter 2 :: letter 1 :: letter 0 :: encode rest
  | [a, b] =>
    let n := 65536 * a + 256 * b
    let letter (k : Nat) : Char := letters.getD (n / Nat.pow 64 k % 64) '='
    [letter 3, letter 2, letter 1, '=']
  | [a] =>
    let n := 65536 * a
    let letter (k : Nat) : Char := letters.getD (n / Nat.pow 64 k % 64) '='
    [letter 3, letter 2, '=', '=']
  | [] => []

/-- The bytes that letters stand for, and whether all of them could be read. -/
def decode : List Char → List Nat × Bool
  | a :: b :: c :: d :: rest =>
    match letters.idxOf? a, letters.idxOf? b, letters.idxOf? c, letters.idxOf? d with
    | some x, some y, some z, some w =>
      let n := 262144 * x + 4096 * y + 64 * z + w
      let (more, complete) := decode rest
      (n / 65536 :: n / 256 % 256 :: n % 256 :: more, complete)
    | some x, some y, some z, none =>
      let n := 262144 * x + 4096 * y + 64 * z
      ([n / 65536, n / 256 % 256], d == '=' && rest.isEmpty)
    | some x, some y, none, none =>
      let n := 262144 * x + 4096 * y
      ([n / 65536], c == '=' && d == '=' && rest.isEmpty)
    | _, _, _, _ => ([], false)
  | [] => ([], true)
  | _ => ([], false)

end Alphabet

/-- Shows bytes in letters, or letters as bytes. -/
def base64 : Utility := fun _ =>
  let rules := [letter 'd' ["decode"], letter 'i' ["ignore-garbage"], taking 'w' ["wrap"]]
  withOptions rules fun g => do
    eachInput g.operands fun _ text => do
      if g.has "d" then
        let letters := text.toList.filter (· ≠ '\n')
        let letters := if g.has "i" then
            letters.filter fun c => Alphabet.letters.contains c || c == '='
          else letters
        let (bytes, complete) := Alphabet.decode letters
        print (String.ofList (bytes.map Char.ofNat))
        if !complete then warn "invalid input"
      else
        let letters := Alphabet.encode (Dump.bytesOf text)
        let width := ((g.last? "w").bind String.toNat?).getD 76
        if width = 0 then print (String.ofList letters)
        else printLines ((Dump.chunks width (letters.length + 1) letters).map String.ofList)

end SignatureAudit.Emulation.Utility

/-!
# Text from bytes

Bytes that are not valid UTF-8 are read with a replacement character for each maximal part of a
character that cannot be completed, and for each byte that cannot start one. Valid text is read as
it is.
-/

namespace SignatureAudit.Text

/-- Stands for bytes that are no text. -/
def replacement : Char := '\uFFFD'

/-- The number of continuation bytes that a first byte calls for, with the smallest and the largest
value of the first of them. -/
def continuation? (first : Nat) : Option (Nat × Nat × Nat) :=
  if first < 0xC2 then none
  else if first < 0xE0 then some (1, 0x80, 0xBF)
  else if first = 0xE0 then some (2, 0xA0, 0xBF)
  else if first = 0xED then some (2, 0x80, 0x9F)
  else if first < 0xF0 then some (2, 0x80, 0xBF)
  else if first = 0xF0 then some (3, 0x90, 0xBF)
  else if first < 0xF4 then some (3, 0x80, 0xBF)
  else if first = 0xF4 then some (3, 0x80, 0x8F)
  else none

/-- Reads bytes of which a character may be begun: `code` has the bits read so far, `missing` counts
the continuation bytes that are still to come, and the next of them lies between `low` and `high`.
-/
def decodeFrom (code missing low high : Nat) : List Nat → List Char
  | [] => if missing = 0 then [] else [replacement]
  | byte :: rest =>
    if missing ≠ 0 && low ≤ byte && byte ≤ high then
      let code := code * 64 + byte % 64
      if missing = 1 then Char.ofNat code :: decodeFrom 0 0 0 0 rest
      else decodeFrom code (missing - 1) 0x80 0xBF rest
    else
      let broken := if missing = 0 then [] else [replacement]
      if byte < 0x80 then broken ++ Char.ofNat byte :: decodeFrom 0 0 0 0 rest
      else
        match continuation? byte with
        | none => broken ++ replacement :: decodeFrom 0 0 0 0 rest
        | some (count, low, high) =>
          broken ++ decodeFrom (byte % Nat.pow 2 (6 - count)) count low high rest

/-- The text of some bytes. -/
def decodeLossy (bytes : ByteArray) : String :=
  match String.fromUTF8? bytes with
  | some text => text
  | none => String.ofList (decodeFrom 0 0 0 0 (bytes.toList.map UInt8.toNat))

end SignatureAudit.Text

import SignatureAudit.Text.Bytes

/-!
# Text as bytes

Scripts and the programs that they run know bytes and no characters. In their texts the character
of a number below 256 stands for the byte of this number, so that no byte is lost and a pattern for
one character fits one byte. `raw` and `cooked` lead from text to its bytes and back.
-/

namespace SignatureAudit.Emulation

/-- Bytes as characters. -/
def rawChars (bytes : ByteArray) : List Char := bytes.toList.map fun byte => Char.ofNat byte.toNat

/-- The bytes that characters stand for. -/
def rawBytes (cs : List Char) : ByteArray := ⟨(cs.map fun c => UInt8.ofNat c.toNat).toArray⟩

/-- Whether all characters are ASCII, which stand for themselves. -/
def isAscii (s : String) : Bool := s.toList.all fun c => c.toNat < 128

/-- The bytes of a text, as characters. -/
def raw (s : String) : String :=
  if isAscii s then s else String.ofList (rawChars s.toUTF8)

/-- The text of bytes that are given as characters. -/
def cooked (s : String) : String :=
  if isAscii s then s else Text.decodeLossy (rawBytes s.toList)

end SignatureAudit.Emulation

/-!
UTF-8 text as bytes. Scripts are scanned byte by byte, and a literal taken from a script can
hold a byte that starts no well-formed sequence: a backslash before a multi-byte character
escapes only its lead byte and leaves the continuation bytes behind. Decoding therefore never
fails. Each byte that does not begin a well-formed sequence reads as U+FFFD on its own, the
shortest sequences only and no surrogates, which is the rule every writer of this library uses.
-/

namespace DdlCatalog

/-- Raw bytes of a script or of a literal taken from it. -/
abbrev Bytes := List UInt8

namespace Utf8

/-- The character that stands for a byte that begins no well-formed sequence. -/
def replacement : Char := '�'

/-- The bytes of a string. -/
def encode (s : String) : Bytes := s.toUTF8.toList

/-- The bytes of one character. -/
def encodeChar (c : Char) : Bytes := String.utf8EncodeChar c

/-- A continuation byte, `10xxxxxx`. -/
def isCont (b : UInt8) : Bool := b &&& 0xC0 == 0x80

/-- The character and the number of continuation bytes of a well-formed sequence that starts
with the non-ASCII byte `b0` and goes on with `bs`, if there is one. -/
def decodeLead (b0 : UInt8) (bs : Bytes) : Option (Char × Nat) :=
  let c (b : UInt8) : Nat := (b &&& 0x3F).toNat
  if b0 < 0xC2 then none
  else if b0 < 0xE0 then
    match bs with
    | b1 :: _ => if isCont b1 then some (Char.ofNat ((b0 &&& 0x1F).toNat * 64 + c b1), 1) else none
    | [] => none
  else if b0 < 0xF0 then
    match bs with
    | b1 :: b2 :: _ =>
      let lo : UInt8 := if b0 == 0xE0 then 0xA0 else 0x80
      let hi : UInt8 := if b0 == 0xED then 0x9F else 0xBF
      if lo ≤ b1 && b1 ≤ hi && isCont b2 then
        some (Char.ofNat ((b0 &&& 0x0F).toNat * 4096 + c b1 * 64 + c b2), 2)
      else none
    | _ => none
  else if b0 < 0xF5 then
    match bs with
    | b1 :: b2 :: b3 :: _ =>
      let lo : UInt8 := if b0 == 0xF0 then 0x90 else 0x80
      let hi : UInt8 := if b0 == 0xF4 then 0x8F else 0xBF
      if lo ≤ b1 && b1 ≤ hi && isCont b2 && isCont b3 then
        some (Char.ofNat ((b0 &&& 0x07).toNat * 262144 + c b1 * 4096 + c b2 * 64 + c b3), 3)
      else none
    | _ => none
  else none

/-- Decodes bytes to characters, one U+FFFD for each byte that begins no well-formed
sequence. -/
def decodeChars : Bytes → List Char
  | [] => []
  | b0 :: bs =>
    if b0 < 0x80 then Char.ofNat b0.toNat :: decodeChars bs
    else match decodeLead b0 bs with
      | some (c, n) => c :: decodeChars (bs.drop n)
      | none => replacement :: decodeChars bs
termination_by bs => bs.length
decreasing_by
  all_goals simp only [List.length_cons, List.length_drop]
  all_goals omega

/-- Decodes bytes to a string, as `decodeChars` does. -/
def decode (bs : Bytes) : String := String.ofList (decodeChars bs)

end Utf8

end DdlCatalog

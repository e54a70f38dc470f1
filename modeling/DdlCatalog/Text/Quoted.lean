import DdlCatalog.Text.Utf8
import DdlCatalog.Text.Printable
/-!
Quoted literals: text in double quotes in which a reader sees every byte. Printable characters
stand for themselves, a quote and a backslash are escaped with a backslash, the usual control
characters use their letter escapes (`\n`, `\t`, ...), other characters below U+0080 and bytes
that begin no well-formed UTF-8 sequence are written `\xhh`, and the remaining characters
`\uhhhh` or `\Uhhhhhhhh`, always with lowercase hexadecimal digits.
-/

namespace DdlCatalog.Text

/-- The lowercase hexadecimal digits of `n`, padded with zeros to `width` digits. -/
def hexDigits (width n : Nat) : String :=
  let digits := Nat.toDigits 16 n
  String.ofList (List.replicate (width - digits.length) '0' ++ digits)

/-- The escaped form of one character inside a quoted literal. -/
def escapeChar (c : Char) : String :=
  if c = '"' || c = '\\' then String.ofList ['\\', c]
  else if isPrintable c then String.singleton c
  else match c.toNat with
    | 0x07 => "\\a"
    | 0x08 => "\\b"
    | 0x0C => "\\f"
    | 0x0A => "\\n"
    | 0x0D => "\\r"
    | 0x09 => "\\t"
    | 0x0B => "\\v"
    | n =>
      if n < 0x20 || n == 0x7F then "\\x" ++ hexDigits 2 n
      else if n < 0x10000 then "\\u" ++ hexDigits 4 n
      else "\\U" ++ hexDigits 8 n

/-- The escaped form of a byte sequence, without the surrounding quotes. -/
def escapeBytes : Bytes → String
  | [] => ""
  | b :: bs =>
    if b < 0x80 then escapeChar (Char.ofNat b.toNat) ++ escapeBytes bs
    else match Utf8.decodeLead b bs with
      | some (c, n) => escapeChar c ++ escapeBytes (bs.drop n)
      | none => "\\x" ++ hexDigits 2 b.toNat ++ escapeBytes bs
termination_by bs => bs.length
decreasing_by
  all_goals simp only [List.length_cons, List.length_drop]
  all_goals omega

/-- A byte sequence as a quoted literal. -/
def quoteBytes (bs : Bytes) : String := "\"" ++ escapeBytes bs ++ "\""

/-- A string as a quoted literal. -/
def quote (s : String) : String := quoteBytes (Utf8.encode s)

end DdlCatalog.Text

/-!
Blank characters: the white space of Unicode 15.0 (tab, line feed, vertical tab, form feed,
carriage return, space, next line, no-break space and the other separators of the Zs, Zl and
Zp classes). Trimming and splitting into fields use this class.
-/

namespace DdlCatalog.Text

/-- Whether `c` is white space. -/
def isBlank (c : Char) : Bool :=
  match c.toNat with
  | 0x09 | 0x0A | 0x0B | 0x0C | 0x0D | 0x20 | 0x85 | 0xA0 | 0x1680 | 0x2028 | 0x2029
  | 0x202F | 0x205F | 0x3000 => true
  | n => 0x2000 ≤ n && n ≤ 0x200A

/-- Removes the blanks at both ends. -/
def trimBlank (s : String) : String :=
  String.ofList ((s.toList.dropWhile isBlank).reverse.dropWhile isBlank).reverse

/-- Splits characters at runs of blanks; `word` holds the current word, reversed. -/
def splitBlank : List Char → List Char → List (List Char)
  | [], word => if word.isEmpty then [] else [word.reverse]
  | c :: cs, word =>
    if isBlank c then
      if word.isEmpty then splitBlank cs [] else word.reverse :: splitBlank cs []
    else splitBlank cs (c :: word)

/-- The words of a string: its maximal runs of non-blank characters, in order. -/
def fields (s : String) : List String := (splitBlank s.toList []).map String.ofList

end DdlCatalog.Text

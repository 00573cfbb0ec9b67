import SplitTest.Text.Digit
import SplitTest.Text.Printable

/-! Texts as they are shown inside a message: between quotes, with escapes for the quote, the
backslash and every character that is not printable.  The quote is the single one unless the text
holds a single quote and no double one. -/

namespace SplitTest.Text

/-- The single quote. -/
def apostrophe : Char := Char.ofNat 39

/-- The quote that surrounds a shown text. -/
def quoteOf (cs : List Char) : Char :=
  if cs.contains apostrophe && !cs.contains '"' then '"' else apostrophe

/-- One character of a text shown between the quotes `q`. -/
def shownChar (q c : Char) : String :=
  if c == q || c == '\\' then String.ofList ['\\', c]
  else if c == '\n' then "\\n"
  else if c == '\r' then "\\r"
  else if c == '\t' then "\\t"
  else if isPrintable c then String.singleton c
  else if c.toNat < 0x100 then "\\x" ++ hexText 2 c.toNat
  else if c.toNat < 0x10000 then "\\u" ++ hexText 4 c.toNat
  else "\\U" ++ hexText 8 c.toNat

/-- A text shown inside a message. -/
def quoted (s : String) : String :=
  let q := quoteOf s.toList
  String.singleton q ++ String.join (s.toList.map (shownChar q)) ++ String.singleton q

end SplitTest.Text

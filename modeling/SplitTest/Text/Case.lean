/-! Case of the Latin letters.  Only the fold to or from ASCII letters matters to names that are
looked up in a table of ASCII names, so other letters stay as they are; the few characters outside
ASCII whose other case is ASCII are folded too. -/

namespace SplitTest.Text

/-- Lower case: ASCII capitals, and the Kelvin sign. -/
def lowerChar (c : Char) : Char :=
  if c.toNat = 0x212a then 'k' else c.toLower

/-- Upper case: ASCII small letters, the dotless `i` and the long `s`. -/
def upperChar (c : Char) : Char :=
  if c.toNat = 0x131 then 'I' else if c.toNat = 0x17f then 'S' else c.toUpper

/-- The capitals of the characters that stand for several ASCII letters. -/
def ligatures : List (Nat × String) :=
  [(0xdf, "SS"), (0xfb00, "FF"), (0xfb01, "FI"), (0xfb02, "FL"), (0xfb03, "FFI"), (0xfb04, "FFL"),
    (0xfb05, "ST"), (0xfb06, "ST")]

/-- `lower` folds every letter to lower case. -/
def lower (s : String) : String :=
  s.map lowerChar

/-- `upper` folds every letter to upper case; a ligature becomes its letters. -/
def upper (s : String) : String :=
  String.ofList (s.toList.flatMap fun c =>
    match ligatures.lookup c.toNat with
    | some t => t.toList
    | none => [upperChar c])

end SplitTest.Text

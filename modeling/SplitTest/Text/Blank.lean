/-! Blank characters and trimming.  `isBlank` is the set of characters that separate words in any
script: the Unicode white space together with the four ASCII information separators.  `trim` drops
blanks at both ends and nothing else. -/

namespace SplitTest.Text

/-- A blank is a tab, a line break of any kind, an information separator or a Unicode space. -/
def isBlank (c : Char) : Bool :=
  let n := c.toNat
  (9 ≤ n && n ≤ 13) || (28 ≤ n && n ≤ 32) || n == 0x85 || n == 0xa0 || n == 0x1680 ||
    (0x2000 ≤ n && n ≤ 0x200a) || n == 0x2028 || n == 0x2029 || n == 0x202f || n == 0x205f ||
    n == 0x3000

/-- White space in the narrower sense leaves out the information separators. -/
def isSpace (c : Char) : Bool :=
  isBlank c && !(28 ≤ c.toNat && c.toNat ≤ 31)

/-- `trimBy p` drops the longest runs of `p` at both ends. -/
def trimBy (p : Char → Bool) (cs : List Char) : List Char :=
  ((cs.dropWhile p).reverse.dropWhile p).reverse

/-- `trimList` drops the blanks at both ends of a character list. -/
def trimList (cs : List Char) : List Char :=
  trimBy isBlank cs

/-- `trim` drops the blanks at both ends of a text. -/
def trim (s : String) : String :=
  String.ofList (trimList s.toList)

/-- `trimEnd` drops the blanks at the end of a text. -/
def trimEnd (s : String) : String :=
  String.ofList (s.toList.reverse.dropWhile isBlank).reverse

end SplitTest.Text

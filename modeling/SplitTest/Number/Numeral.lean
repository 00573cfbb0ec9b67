import SplitTest.Number.Double
import SplitTest.Text.Blank
import SplitTest.Text.Digit

/-! Number texts.  A numeral is a digit string with an optional sign, fraction and decimal exponent,
or the name of an infinity or of not-a-number.  `Double.ofNumeral?` reads a bare ASCII numeral.
Field texts are freer: blanks around the numeral, digits of any script and single underscores
between digits are allowed, and `plain?` reduces such a text to a bare one. -/

namespace SplitTest

/-- The most digits that a whole-number text may have. -/
def digitLimit : Nat := 4300

namespace Numeral

open Text

/-- A digit of any script becomes the ASCII digit of its value. -/
def asciiDigit (c : Char) : Char :=
  match digit? c with
  | some d => digitChar d
  | none => c

/-- Removes the underscores that stand between two digits; fails at any other underscore.  The flag
says whether the previous character was a digit. -/
def dropUnderscores : Bool → List Char → Option (List Char)
  | _, [] => some []
  | true, '_' :: d :: rest =>
    if (asciiDigit? d).isSome then dropUnderscores true rest |>.map (d :: ·) else none
  | _, c :: rest =>
    if c == '_' then none
    else
      let digit := (asciiDigit? c).isSome
      (dropUnderscores digit rest).map (c :: ·)
  termination_by _ cs => cs.length

/-- The bare ASCII numeral of a field text, if its underscores stand between digits. -/
def plain? (s : String) : Option (List Char) :=
  dropUnderscores false ((trimBy isSpace s.toList).map asciiDigit)

/-- Splits off a leading sign; true is minus. -/
def splitSign : List Char → Bool × List Char
  | '-' :: rest => (true, rest)
  | '+' :: rest => (false, rest)
  | cs => (false, cs)

/-- Splits off the leading ASCII digits, as their values. -/
def splitDigits : List Char → List Nat × List Char
  | [] => ([], [])
  | c :: rest =>
    match asciiDigit? c with
    | some d => let (ds, r) := splitDigits rest; (d :: ds, r)
    | none => ([], c :: rest)

/-- A sign and a nonempty run of at most `digitLimit` digits. -/
def int? (cs : List Char) : Option Int :=
  let (negative, rest) := splitSign cs
  match splitDigits rest with
  | ([], _) => none
  | (ds, []) =>
    if ds.length ≤ digitLimit then
      let n : Int := ofDigits ds
      some (if negative then -n else n)
    else none
  | _ => none

/-- A decimal exponent at the end of a numeral, absent or complete. -/
def exponent? : List Char → Option Int
  | [] => some 0
  | c :: rest =>
    if c == 'e' || c == 'E' then
      let (negative, rest) := splitSign rest
      match splitDigits rest with
      | ([], _) => none
      | (ds, []) => let n : Int := ofDigits ds; some (if negative then -n else n)
      | _ => none
    else none

/-- An unsigned decimal numeral as a digit string's number and the decimal exponent of its last
digit. -/
def decimal? (cs : List Char) : Option (Nat × Int) :=
  let (whole, rest) := splitDigits cs
  let (fraction, rest) := match rest with
    | '.' :: r => splitDigits r
    | r => ([], r)
  if whole.isEmpty && fraction.isEmpty then none
  else (exponent? rest).map fun e => (ofDigits (whole ++ fraction), e - fraction.length)

end Numeral

namespace Double

open Numeral Text

/-- The value nearest to `n * 10 ^ e`.  The bounds on the exponent keep the arithmetic small: beyond
them the result is an infinity or a zero whatever the digits are. -/
def ofDecimal (negative : Bool) (n : Nat) (e : Int) : Double :=
  let width : Int := (natText n).length
  if n = 0 then finite negative ⟨0, places_pos⟩
  else if 310 < width + e then infinity negative
  else if width + e < -330 then finite negative ⟨0, places_pos⟩
  else if 0 ≤ e then nearest negative (n * Nat.pow 10 e.toNat) 1
  else nearest negative n (Nat.pow 10 (-e).toNat)

/-- Reads a bare ASCII numeral. -/
def ofNumeral? (cs : List Char) : Option Double :=
  let (negative, rest) := splitSign cs
  let name := String.ofList (rest.map Char.toLower)
  if name == "inf" || name == "infinity" then some (infinity negative)
  else if name == "nan" then some nan
  else (decimal? rest).map fun (n, e) => ofDecimal negative n e

/-- Reads a field text. -/
def ofText? (s : String) : Option Double :=
  (plain? s).bind ofNumeral?

end Double

/-- Reads a field text as a whole number. -/
def intOfText? (s : String) : Option Int :=
  (Numeral.plain? s).bind Numeral.int?

end SplitTest

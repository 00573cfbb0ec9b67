import SplitTest.Number.Shortest

/-! Floating point numbers with a given number of digits.  The exact value is rounded, a half going
to the even neighbour, to places after the point or to significant digits; the size and the sign are
written apart. -/

namespace SplitTest.Double

open Text

/-- The value at place `k` rounded to `n + 1` digits, and the exponent of the first of them. -/
def leadingDigits (n : Nat) (k : Fin places) : String × Int :=
  if k.val = 0 then (zeroText (n + 1), 0)
  else
    let u := units k.val
    let p := pointPlace u
    let (num, den) := inUnitsOf u (p - (n + 1 : Nat))
    let digits := natText (roundDiv num den)
    -- Nines that are rounded up become one digit more, a zero at the end.
    if digits.length = n + 2 then (String.ofList digits.toList.dropLast, p) else (digits, p - 1)

/-- Digits before and after a point, which is left out where nothing follows it unless it is to be
kept. -/
def pointed (keep : Bool) (whole fraction : List Char) : String :=
  String.ofList whole ++
    (if fraction.isEmpty && !keep then "" else "." ++ String.ofList fraction)

/-- The size of a number as one of the ways to write it with a given number of digits. -/
def sizeText (write : Fin places → String) : Double → String
  | finite _ k => write k
  | infinity _ => "inf"
  | nan => "nan"

/-- The size with `n` places after the point. -/
def fixedSize (keep : Bool) (n : Nat) : Double → String :=
  sizeText fun k =>
    let digits := (zeroPad (n + 1) (roundDiv (units k.val * Nat.pow 10 n) one)).toList
    pointed keep (digits.take (digits.length - n)) (digits.drop (digits.length - n))

/-- Digits with a point after the first of them, and an exponent. -/
def withExponent (keep : Bool) (digits : List Char) (x : Int) : String :=
  pointed keep (digits.take 1) (digits.drop 1) ++ (if x < 0 then "e-" else "e+") ++
    zeroPad 2 x.natAbs

/-- The size with `n` places after the point and an exponent. -/
def scientificSize (keep : Bool) (n : Nat) : Double → String :=
  sizeText fun k =>
    let (digits, x) := leadingDigits n k
    withExponent keep digits.toList x

/-- The size with `n` digits, at least one, without zeros at the end unless the point is to be kept;
with an exponent if the number is below one ten-thousandth or has more digits before its point. -/
def generalSize (keep : Bool) (n : Nat) : Double → String :=
  sizeText fun k =>
    let n := max n 1
    let (digits, x) := leadingDigits (n - 1) k
    let digits := (if keep then digits else dropTrailingZeros digits).toList
    if x < -4 || n ≤ x then withExponent keep (if digits.isEmpty then ['0'] else digits) x
    else if x < 0 then
      pointed keep ['0'] ((zeroText (-x - 1).toNat).toList ++ digits)
    else
      let whole := digits.take (x.toNat + 1)
      pointed keep (whole ++ (zeroText (x.toNat + 1 - whole.length)).toList)
        (digits.drop (x.toNat + 1))

end SplitTest.Double

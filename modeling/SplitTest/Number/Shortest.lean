import SplitTest.Number.Numeral

/-! The text of a floating point number.  `Double.text` writes the fewest decimal digits that read
back as the number, and of those the nearest; `Double.fixed` writes a given number of places, a half
going to the even neighbour of the exact value. -/

namespace SplitTest.Double

open Text

/-- `u` units as a quotient of natural numbers in units of `10 ^ e`. -/
def inUnitsOf (u : Nat) (e : Int) : Nat × Nat :=
  if 0 ≤ e then (u, one * Nat.pow 10 e.toNat) else (u * Nat.pow 10 (-e).toNat, one)

/-- The two multiples of `10 ^ e` around `u` units, the nearer first and of two equally near ones
the even. -/
def neighbours (u : Nat) (e : Int) : List Nat :=
  let (num, den) := inUnitsOf u e
  let q := num / den
  let r := num % den
  if 2 * r < den || (2 * r == den && q % 2 == 0) then [q, q + 1] else [q + 1, q]

/-- The number of decimal digits before the point of `u` units; it is not positive for a value below
one tenth. -/
def pointPlace (u : Nat) : Int :=
  (natText (u * Nat.pow 10 400 / one)).length - 400

/-- The fewest decimal digits, with the exponent of the last one, that read back as the value at
place `k`.  Should seventeen digits not be enough, the exact value is taken. -/
def shortestDigits (k : Fin places) : Nat × Int :=
  let u := units k.val
  let p := pointPlace u
  let found := (List.range 17).findSome? fun i =>
    let e := p - (i + 1 : Nat)
    ((neighbours u e).find? fun c => ofDecimal false c e = finite false k).map (·, e)
  found.getD (u * Nat.pow 5 1074, -1074)

/-- Digits without trailing zeros. -/
def dropTrailingZeros (digits : String) : String :=
  String.ofList (digits.toList.reverse.dropWhile (· == '0')).reverse

def zeroText (n : Nat) : String :=
  String.ofList (List.replicate n '0')

/-- Digits with a point after the first `p` of them, at least one digit on each side. -/
def positional (digits : String) (p : Int) : String :=
  if p ≤ 0 then "0." ++ zeroText (-p).toNat ++ digits
  else if digits.length ≤ p.toNat then
    digits ++ zeroText (p.toNat - digits.length) ++ ".0"
  else
    String.ofList (digits.toList.take p.toNat) ++ "." ++ String.ofList (digits.toList.drop p.toNat)

/-- Digits with a point after the first of them and the exponent `x`, written with a sign and at
least two digits. -/
def scientific (digits : String) (x : Int) : String :=
  let mantissa := match digits.toList with
    | [] => ""
    | [d] => String.singleton d
    | d :: rest => String.ofList (d :: '.' :: rest)
  mantissa ++ (if x < 0 then "e-" else "e+") ++ zeroPad 2 x.natAbs

/-- The text of an unsigned value: positional from one ten-thousandth up to and excluding ten to
the sixteenth. -/
def magnitudeText (k : Fin places) : String :=
  if k.val = 0 then "0.0"
  else
    let (n, e) := shortestDigits k
    let digits := natText n
    let x := digits.length + e - 1
    let significant := dropTrailingZeros digits
    if -4 ≤ x && x < 16 then positional significant (x + 1) else scientific significant x

/-- The text of a value, which reads back as the value. -/
def text : Double → String
  | finite s k => (if s then "-" else "") ++ magnitudeText k
  | infinity s => if s then "-inf" else "inf"
  | nan => "nan"

/-- The value with `n` digits after the point. -/
def fixed (n : Nat) : Double → String
  | finite s k =>
    let digits := zeroPad (n + 1) (roundDiv (units k.val * Nat.pow 10 n) one)
    let whole := digits.toList.take (digits.length - n)
    let fraction := digits.toList.drop (digits.length - n)
    (if s then "-" else "") ++ String.ofList whole ++
      (if n = 0 then "" else "." ++ String.ofList fraction)
  | infinity s => if s then "-inf" else "inf"
  | nan => "nan"

end SplitTest.Double

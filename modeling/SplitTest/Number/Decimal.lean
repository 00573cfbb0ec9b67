import SplitTest.Number.Numeral

/-! Decimal numbers as a warehouse returns them: a signed digit string with a decimal exponent, so
that `1.50` and `1.5` are different values of the same size, together with the infinities and the
values that are not numbers. -/

namespace SplitTest

inductive Decimal
  | finite (negative : Bool) (digits : Nat) (exponent : Int)
  | infinity (negative : Bool)
  | nan (negative signaling : Bool) (payload : Nat)
  deriving DecidableEq, Inhabited

namespace Decimal

open Numeral Text

/-- The text of an unsigned decimal: positional when the exponent is not positive and the value is
not below one millionth, with one digit before the point otherwise. -/
def magnitudeText (digits : Nat) (exponent : Int) : String :=
  let ds := natText digits
  let left := exponent + ds.length
  let place : Int := if exponent ≤ 0 && -6 < left then left else 1
  let zeros (n : Int) := String.ofList (List.replicate n.toNat '0')
  let body :=
    if place ≤ 0 then "0." ++ zeros (-place) ++ ds
    else if ds.length ≤ place then ds ++ zeros (place - ds.length)
    else String.ofList (ds.toList.take place.toNat) ++ "." ++
      String.ofList (ds.toList.drop place.toNat)
  let x := left - place
  body ++ (if x = 0 then "" else (if x < 0 then "E-" else "E+") ++ natText x.natAbs)

def text : Decimal → String
  | finite s n e => (if s then "-" else "") ++ magnitudeText n e
  | infinity s => if s then "-Infinity" else "Infinity"
  | nan s q p =>
    (if s then "-" else "") ++ (if q then "sNaN" else "NaN") ++ (if p = 0 then "" else natText p)

/-- Reads a decimal from a field text. -/
def ofText? (s : String) : Option Decimal :=
  let cs := ((trimList s.toList).filter (· != '_')).map asciiDigit
  let (negative, rest) := splitSign cs
  let lowered := rest.map Char.toLower
  let payload? (ds : List Char) : Option Nat :=
    match splitDigits ds with
    | (ds, []) => some (ofDigits ds)
    | _ => none
  if lowered == "inf".toList || lowered == "infinity".toList then some (infinity negative)
  else match lowered with
    | 'n' :: 'a' :: 'n' :: ds => (payload? ds).map (nan negative false)
    | 's' :: 'n' :: 'a' :: 'n' :: ds => (payload? ds).map (nan negative true)
    | _ => (decimal? rest).map fun (n, e) => finite negative n e

/-- The value with its fraction dropped, if finite. -/
def truncate? : Decimal → Option Int
  | finite s n e =>
    let m := if 0 ≤ e then n * Nat.pow 10 e.toNat else n / Nat.pow 10 (-e).toNat
    some (if s then -m else m)
  | _ => none

/-- The nearest floating point value; a signaling value has none. -/
def toDouble? : Decimal → Option Double
  | finite s n e => some (Double.ofDecimal s n e)
  | infinity s => some (.infinity s)
  | nan _ signaling _ => if signaling then none else some .nan

end Decimal

end SplitTest

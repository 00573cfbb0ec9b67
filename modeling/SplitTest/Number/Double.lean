/-! Binary floating point with 53 significant bits, exactly.  The nonnegative finite values form a
grid `0 = v 0 < v 1 < …` and a value is stored as its sign and its place on the grid, so no two
representations share a value other than the two zeros.  `units k` is `v k` in units of the least
positive value `2^-1074`, a natural number, so every comparison and rounding is exact arithmetic.
`nearest` is the one rounding: to the nearest grid value, a tie to the even place. -/

namespace SplitTest

/-- One more than the last place on the grid of finite values. -/
def Double.places : Nat := 2047 * Nat.pow 2 52

theorem Double.places_pos : 0 < Double.places := by decide

/-- A floating point number: a signed place on the grid, an infinity, or not a number. -/
inductive Double
  | finite (negative : Bool) (place : Fin Double.places)
  | infinity (negative : Bool)
  | nan
  deriving DecidableEq

namespace Double

/-- The value at place `k`, in units of `2^-1074`. -/
def units (k : Nat) : Nat :=
  if k < Nat.pow 2 52 then k
  else (Nat.pow 2 52 + k % Nat.pow 2 52) * Nat.pow 2 (k / Nat.pow 2 52 - 1)

/-- The number of units in one. -/
def one : Nat := Nat.pow 2 1074

/-- The last place whose value is at most `q` units. -/
def floorPlace (q : Nat) : Nat :=
  let s := Nat.log2 q - 52
  s * Nat.pow 2 52 + q / Nat.pow 2 s

/-- The place nearest to `num / den` units; a tie goes to the even place. -/
def nearestPlace (num den : Nat) : Nat :=
  let k := floorPlace (num / den)
  let below := num - units k * den
  let above := units (k + 1) * den - num
  if below < above then k else if above < below then k + 1 else if k % 2 = 0 then k else k + 1

/-- The finite value at a place, or the infinity when the place is off the grid. -/
def atPlace (negative : Bool) (k : Nat) : Double :=
  if h : k < places then finite negative ⟨k, h⟩ else infinity negative

/-- The value nearest to `num / den`. -/
def nearest (negative : Bool) (num den : Nat) : Double :=
  atPlace negative (nearestPlace (num * one) den)

/-- Positive zero. -/
def zero : Double := finite false ⟨0, places_pos⟩

instance : Inhabited Double := ⟨zero⟩

/-- A value is finite when it is neither an infinity nor not a number. -/
def isFinite : Double → Bool
  | finite .. => true
  | _ => false

/-- Both zeros are zero. -/
def isZero : Double → Bool
  | finite _ k => k.val == 0
  | _ => false

/-- The signed value in units of `2^-1074`, if finite. -/
def units? : Double → Option Int
  | finite true k => some (-(units k.val : Int))
  | finite false k => some (units k.val)
  | _ => none

/-- A value below zero. -/
def isNegative : Double → Bool
  | finite s k => s && k.val != 0
  | infinity s => s
  | nan => false

/-- Whether the value is a whole number. -/
def isWhole : Double → Bool
  | finite _ k => units k.val % one == 0
  | _ => false

/-- The value with its fraction dropped, if finite. -/
def truncate? : Double → Option Int
  | finite s k =>
    let n : Int := (units k.val / one : Nat)
    some (if s then -n else n)
  | _ => none

/-- The nearest value to `num / den` with the sign of `num`, or nothing if it is off the grid. -/
def ofQuotient? (num : Int) (den : Nat) : Option Double :=
  let x := nearest (num < 0) num.natAbs den
  if x.isFinite then some x else none

/-- The nearest value to a whole number, or nothing if it is off the grid. -/
def ofInt? (n : Int) : Option Double :=
  ofQuotient? n 1

/-- The nearest value to a natural number. -/
def ofNat (n : Nat) : Double :=
  nearest false n 1

/-- The sign of a product or quotient. -/
def sign : Double → Bool
  | finite s _ => s
  | infinity s => s
  | nan => false

/-- The product, rounded once. -/
def mul (x y : Double) : Double :=
  let s := x.sign != y.sign
  match x, y with
  | nan, _ => nan
  | _, nan => nan
  | finite _ a, finite _ b => nearest s (units a.val * units b.val) (one * one)
  | x, y => if x.isZero || y.isZero then nan else infinity s

/-- The quotient by a positive whole number, rounded once. -/
def divNat (x : Double) (n : Nat) : Double :=
  match x with
  | finite s k => nearest s (units k.val) (one * n)
  | x => x

/-- Two values are the same number; not-a-number is the same as nothing. -/
def same (x y : Double) : Bool :=
  match x, y with
  | finite .., finite .. => x.units? == y.units?
  | infinity a, infinity b => a == b
  | _, _ => false

/-- `x` is below the whole number `n`. -/
def ltInt (x : Double) (n : Int) : Bool :=
  match x with
  | finite .. => x.units?.any (· < n * one)
  | infinity s => s
  | nan => false

/-- `num / den` to the nearest whole number; a tie goes to the even one. -/
def roundDiv (num den : Nat) : Nat :=
  let q := num / den
  let r := num % den
  if 2 * r < den then q else if den < 2 * r then q + 1 else if q % 2 = 0 then q else q + 1

/-- The nearest whole number, ties to even, if finite. -/
def round? : Double → Option Int
  | finite s k =>
    let n : Int := roundDiv (units k.val) one
    some (if s then -n else n)
  | _ => none

end Double

end SplitTest

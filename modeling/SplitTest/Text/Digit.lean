/-! Decimal digits of any script.  Every script with decimal digits has them in runs of ten code
points, from zero to nine, so a digit's value is its distance from the start of its run. -/

namespace SplitTest.Text

/-- The code points of the zeros of all scripts, in order. -/
def zeros : List Nat :=
  [48, 1632, 1776, 1984, 2406, 2534, 2662, 2790, 2918, 3046, 3174, 3302, 3430, 3558, 3664, 3792,
    3872, 4160, 4240, 6112, 6160, 6470, 6608, 6784, 6800, 6992, 7088, 7232, 7248, 42528, 43216,
    43264, 43472, 43504, 43600, 44016, 65296, 66720, 68912, 69734, 69872, 69942, 70096, 70384,
    70736, 70864, 71248, 71360, 71472, 71904, 72016, 72784, 73040, 73120, 92768, 92864, 93008,
    120782, 120792, 120802, 120812, 120822, 123200, 123632, 125264, 130032]

/-- The value of a decimal digit of any script. -/
def digit? (c : Char) : Option Nat :=
  (zeros.find? fun z => z ≤ c.toNat && c.toNat < z + 10).map (c.toNat - ·)

/-- A decimal digit of any script. -/
def isDigit (c : Char) : Bool :=
  (digit? c).isSome

def asciiDigit? (c : Char) : Option Nat :=
  if '0' ≤ c && c ≤ '9' then some (c.toNat - 48) else none

/-- The number that a run of digits denotes in base ten, most significant first. -/
def ofDigits (ds : List Nat) : Nat :=
  ds.foldl (fun n d => 10 * n + d) 0

/-- The character of a digit below sixteen, letters in lower case. -/
def digitChar (d : Nat) : Char :=
  if d < 10 then Char.ofNat (48 + d) else Char.ofNat (87 + d)

/-- The digits of `n` in base ten, most significant first. -/
def natText (n : Nat) : String :=
  toString n

/-- `padLeft w c s` fills `s` on the left with `c` up to `w` characters. -/
def padLeft (w : Nat) (c : Char) (s : String) : String :=
  String.ofList (List.replicate (w - s.length) c) ++ s

/-- `padRight w s` fills `s` on the right with spaces up to `w` characters. -/
def padRight (w : Nat) (s : String) : String :=
  s ++ String.ofList (List.replicate (w - s.length) ' ')

/-- `zeroPad w n` writes `n` with at least `w` digits. -/
def zeroPad (w n : Nat) : String :=
  padLeft w '0' (natText n)

/-- `hexText w n` writes `n` in base sixteen with `w` digits. -/
def hexText : (w n : Nat) → String
  | 0, _ => ""
  | w + 1, n => hexText w (n / 16) ++ String.singleton (digitChar (n % 16))

end SplitTest.Text

import SplitTest.Text.Digit

/-! The Gregorian calendar from year 1 to year 9999.  A day is its number, counted from 0 for
1 January of year 1, so sums and differences of days are sums and differences of numbers.  Year,
month and day of the month are computed from the number, and `Date.ofFields?` computes the number
from them. -/

namespace SplitTest

/-- The number of days from 1 January of year 1 to 31 December of year 9999. -/
def Date.count : Nat := 3652059

/-- A day of the calendar. -/
structure Date where
  number : Fin Date.count
  deriving DecidableEq

namespace Date

instance : Inhabited Date := ⟨⟨⟨0, by decide⟩⟩⟩

/-- A leap year has 29 days in February. -/
def isLeap (year : Nat) : Bool :=
  year % 4 == 0 && (year % 100 != 0 || year % 400 == 0)

def monthLengths (year : Nat) : List Nat :=
  [31, if isLeap year then 29 else 28, 31, 30, 31, 30, 31, 31, 30, 31, 30, 31]

/-- The length of a month, or nothing if there is no such month. -/
def monthLength? (year month : Nat) : Option Nat :=
  if month = 0 then none else (monthLengths year)[month - 1]?

/-- The number of days before 1 January of a year. -/
def daysBeforeYear (year : Nat) : Nat :=
  let y := year - 1
  365 * y + y / 4 - y / 100 + y / 400

/-- The number of days in a year before the first of a month. -/
def daysBeforeMonth (year month : Nat) : Nat :=
  ((monthLengths year).take (month - 1)).foldl (· + ·) 0

/-- The day of a year, month and day of the month. -/
def ofFields? (year month day : Nat) : Option Date :=
  match monthLength? year month with
  | none => none
  | some length =>
    let n := daysBeforeYear year + daysBeforeMonth year month + (day - 1)
    if h : n < count then
      if 1 ≤ year && 1 ≤ day && day ≤ length then some ⟨⟨n, h⟩⟩ else none
    else none

/-- The month and the day of the month of the `n`th day, from 0, of a year with these month
lengths, when `month` months have passed. -/
def monthAndDay (month : Nat) : List Nat → Nat → Nat × Nat
  | [], n => (month, n + 1)
  | length :: rest, n =>
    if n < length then (month + 1, n + 1) else monthAndDay (month + 1) rest (n - length)

/-- The year of the `n`th day, and the number of the day in that year. -/
def yearAndDay (n : Nat) : Nat × Nat :=
  let (n400, n) := (n / 146097, n % 146097)
  let n100 := min (n / 36524) 3
  let n := n - n100 * 36524
  let (n4, n) := (n / 1461, n % 1461)
  let n1 := min (n / 365) 3
  (n400 * 400 + n100 * 100 + n4 * 4 + n1 + 1, n - n1 * 365)

/-- The year, month and day of the month. -/
def fields (d : Date) : Nat × Nat × Nat :=
  let (year, n) := yearAndDay d.number
  let (month, day) := monthAndDay 0 (monthLengths year) n
  (year, month, day)

def year (d : Date) : Nat := d.fields.1

def month (d : Date) : Nat := d.fields.2.1

def dayOfMonth (d : Date) : Nat := d.fields.2.2

/-- The day of the week, Monday being 0. -/
def weekday (d : Date) : Nat := d.number % 7

/-- The day with a given number, if it is in the calendar. -/
def ofNumber? (n : Int) : Option Date :=
  if h : 0 ≤ n ∧ n.toNat < count then some ⟨⟨n.toNat, h.2⟩⟩ else none

open Text in
/-- Year, month and day joined by hyphens, the year with at least `width` digits. -/
def textWith (width : Nat) (d : Date) : String :=
  zeroPad width d.year ++ "-" ++ zeroPad 2 d.month ++ "-" ++ zeroPad 2 d.dayOfMonth

/-- The ISO text, with a year of four digits. -/
def isoText (d : Date) : String :=
  textWith 4 d

end Date

end SplitTest

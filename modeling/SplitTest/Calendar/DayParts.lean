import SplitTest.Calendar.Date

/-! Which of up to three numbers of a date text is the year, which the month and which the day.
Some numbers are labelled by the way they are written: a number of three or more digits or above 100
is a year, a name is a month.  The others are told apart by their size and their order, the month
standing before the day where both are possible. -/

namespace SplitTest

/-- The numbers of a date in the order of the text, with the positions of those that are
labelled. -/
structure DayParts where
  numbers : List Nat
  yearAt : Option Nat
  monthAt : Option Nat
  /-- A year is written in full. -/
  fullYear : Bool

namespace DayParts

/-- No numbers. -/
def none : DayParts := ⟨[], .none, .none, false⟩

inductive Label
  | year
  | month
  deriving DecidableEq

/-- Adds a number.  A number that must be a year has no other label, and there is at most one year
and one month. -/
def add (p : DayParts) (n : Nat) (isYear : Bool) (label : Option Label) : Option DayParts :=
  let label := if isYear then (if label = some .month then .none else some (some Label.year))
    else some label
  let at_ := p.numbers.length
  let p' := { p with numbers := p.numbers ++ [n], fullYear := p.fullYear || isYear }
  match label with
  | .none => .none
  | some .none => some p'
  | some (some .year) => if p.yearAt.isSome then .none else some { p' with yearAt := some at_ }
  | some (some .month) => if p.monthAt.isSome then .none else some { p' with monthAt := some at_ }

/-- The number at a labelled position. -/
def get (p : DayParts) (position : Option Nat) : Option Nat :=
  position.bind fun i => p.numbers[i]?

/-- The length of a month that a number may lie in, as far as month and year are known. -/
def lengthOfMonth (p : DayParts) : Nat :=
  match p.get p.monthAt with
  | .none => 31
  | some month => (Date.monthLength? ((p.get p.yearAt).getD 2000) month).getD 0

/-- A date as far as it is known. -/
structure Resolved where
  year : Option Nat
  month : Option Nat
  day : Option Nat

/-- Three numbers of which two are labelled, or all numbers being labelled. -/
def resolveLabelled (p : DayParts) : Option Resolved :=
  let rest := (List.range p.numbers.length).filter fun i =>
    some i ≠ p.yearAt && some i ≠ p.monthAt
  match p.yearAt, p.monthAt, p.numbers.length with
  | some y, some m, 3 => some ⟨p.get (some y), p.get (some m), p.get rest.head?⟩
  | some y, some m, 2 => some ⟨p.get (some y), p.get (some m), .none⟩
  | some y, .none, 1 => some ⟨p.get (some y), .none, .none⟩
  | .none, some m, 1 => some ⟨.none, p.get (some m), .none⟩
  | _, _, _ => .none

/-- The parts of a date; more than three numbers are no date. -/
def resolve (p : DayParts) : Option Resolved :=
  match p.resolveLabelled with
  | some r => some r
  | .none =>
    match p.numbers with
    | [] => some ⟨.none, .none, .none⟩
    | [a] => some (if 31 < a then ⟨some a, .none, .none⟩ else ⟨.none, .none, some a⟩)
    | [a, b] =>
      match p.monthAt with
      | some i =>
        let (month, other) := if i = 0 then (a, b) else (b, a)
        some (if 31 < other then ⟨some other, some month, .none⟩
          else ⟨.none, some month, some other⟩)
      | .none =>
        some (if 31 < a then ⟨some a, some b, .none⟩
          else if 31 < b then ⟨some b, some a, .none⟩
          else ⟨.none, some a, some b⟩)
    | [a, b, c] =>
      match p.monthAt with
      | some 0 => some (if 31 < b then ⟨some b, some a, some c⟩ else ⟨some c, some a, some b⟩)
      | some 1 => some (if 31 < a then ⟨some a, some b, some c⟩ else ⟨some c, some b, some a⟩)
      | some _ => some (if 31 < b then ⟨some b, some c, some a⟩ else ⟨some a, some c, some b⟩)
      | .none =>
        some (if 31 < a || p.yearAt = some 0 then ⟨some a, some b, some c⟩
          else if 12 < a then ⟨some c, some b, some a⟩
          else ⟨some c, some a, some b⟩)
    | _ => .none

end DayParts

end SplitTest

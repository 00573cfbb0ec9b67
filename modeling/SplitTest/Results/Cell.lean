import SplitTest.Calendar.Lenient
import SplitTest.Fault
import SplitTest.Value

/-! Reading the cells of result rows.  A number that is missing or garbled counts as zero, and a
time that is missing or garbled as absent, so one bad cell does not cost its row.  The exceptions
are cells that no text can spell: infinite numbers, whole numbers out of the range of floating
point, and times that have no counterpart in UTC. -/

namespace SplitTest

/-- A row: its columns with their cells. -/
abbrev Row := List (String × Value)

namespace Row

/-- The cell of a column; a column that is absent has the cell null. -/
def get (row : Row) (column : String) : Value :=
  (row.lookup column).getD .null

end Row

namespace Cell

/-- The whole part of a floating point number: zero for not-a-number. -/
def wholePart (x : Double) : Except Fault Int :=
  match x with
  | .infinity _ => .error .numberTooLarge
  | .nan => .ok 0
  | x => .ok (x.truncate?.getD 0)

/-- The whole number in a text: the text as a whole number, or else the whole part of the text as a
floating point number, or else zero. -/
def intOfText (s : String) : Int :=
  match intOfText? s with
  | some n => n
  | none => ((Double.ofText? s).bind Double.truncate?).getD 0

/-- The whole number in a cell. -/
def toInt : Value → Except Fault Int
  | .int n => .ok n
  | .bool b => .ok (if b then 1 else 0)
  | .float x => wholePart x
  | .decimal (.infinity _) => .error .numberTooLarge
  | .decimal d => .ok (d.truncate?.getD 0)
  | .text s => .ok (intOfText s)
  | _ => .ok 0

/-- A floating point number, or zero in place of one that is not finite. -/
def finite (x : Double) : Double :=
  if x.isFinite then x else Double.zero

/-- The floating point number in a cell. -/
def toDouble : Value → Except Fault Double
  | .int n => (Double.ofInt? n).elim (.error .numberTooLarge) .ok
  | .bool b => .ok (Double.ofNat (if b then 1 else 0))
  | .float x => .ok (finite x)
  | .decimal d => .ok (finite (d.toDouble?.getD Double.zero))
  | .text s => .ok (finite ((Double.ofText? s).getD Double.zero))
  | _ => .ok Double.zero

/-- The time in a cell, in UTC, where `read?` reads the texts of times. -/
def toTimeBy (read? : String → Option DateTime) (v : Value) : Except Fault (Option DateTime) :=
  match v with
  | .null => .ok none
  | v =>
    match read? v.display with
    | none => .ok none
    | some t =>
      match t.toUtc with
      | .ok u => .ok (some u)
      | .error .offsetTooLarge => .error .offsetTooLarge
      | .error .outOfCalendar => .error .outOfCalendar

/-- The time in a cell, in UTC, where parts that a text leaves out are those of the reference. -/
def toTime (reference : Lenient.Reference) (v : Value) : Except Fault (Option DateTime) :=
  toTimeBy (Lenient.read? reference) v

end Cell

end SplitTest

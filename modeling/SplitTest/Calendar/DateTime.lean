import SplitTest.Calendar.Date

/-! Times of day on a calendar day, to the microsecond, with or without the offset of a zone.  A
time without an offset is in UTC wherever an instant is needed.  Moving a time by days or into UTC
can leave the calendar; such a move has no result. -/

namespace SplitTest

def secondsPerDay : Nat := 86400

/-- A time on a day.  The offset is in seconds east of UTC. -/
structure DateTime where
  date : Date
  second : Fin secondsPerDay
  micro : Fin 1000000
  offset : Option Int
  deriving DecidableEq

/-- Why a time has no counterpart in UTC. -/
inductive DateTime.ZoneError
  /-- The offset is a day or more. -/
  | offsetTooLarge
  /-- The instant is outside the years 1 to 9999. -/
  | outOfCalendar
  deriving DecidableEq

namespace DateTime

open Text

instance : Inhabited DateTime := ⟨⟨default, ⟨0, by decide⟩, 0, none⟩⟩

/-- The number of seconds from the start of the calendar, on the clock that shows the time. -/
def clock (t : DateTime) : Nat :=
  t.date.number * secondsPerDay + t.second

/-- The time without offset that a clock shows after a number of seconds. -/
def ofClock? (seconds : Int) (micro : Fin 1000000) : Option DateTime :=
  (Date.ofNumber? (seconds / secondsPerDay)).map fun date =>
    { date, micro, offset := none
      second := ⟨(seconds % secondsPerDay).toNat, by unfold secondsPerDay; omega⟩ }

/-- The same clock time `days` days earlier. -/
def minusDays? (t : DateTime) (days : Int) : Option DateTime :=
  (Date.ofNumber? (t.date.number - days)).map fun date => { t with date }

def startOfDay (t : DateTime) : DateTime :=
  { t with second := ⟨0, by decide⟩, micro := 0 }

/-- The same instant without an offset, in UTC. -/
def toUtc (t : DateTime) : Except ZoneError DateTime :=
  match t.offset with
  | none => .ok t
  | some offset =>
    if 86400 ≤ offset.natAbs then .error .offsetTooLarge
    else match ofClock? (t.clock - offset) t.micro with
      | some u => .ok u
      | none => .error .outOfCalendar

def hour (t : DateTime) : Nat := t.second / 3600

def minute (t : DateTime) : Nat := t.second / 60 % 60

def secondOfMinute (t : DateTime) : Nat := t.second % 60

/-- Builds a time from a day and the fields of a clock. -/
def ofFields? (date : Date) (hour minute second micro : Nat) (offset : Option Int) :
    Option DateTime :=
  if h : hour < 24 ∧ minute < 60 ∧ second < 60 ∧ micro < 1000000 then
    some { date, offset, micro := ⟨micro, h.2.2.2⟩
           second := ⟨hour * 3600 + minute * 60 + second, by unfold secondsPerDay; omega⟩ }
  else none

/-- Hour, minute and second joined by colons. -/
def clockText (t : DateTime) : String :=
  zeroPad 2 t.hour ++ ":" ++ zeroPad 2 t.minute ++ ":" ++ zeroPad 2 t.secondOfMinute

/-- An offset as hours and minutes, and seconds if there are any. -/
def offsetText (offset : Int) : String :=
  let n := offset.natAbs
  (if offset < 0 then "-" else "+") ++ zeroPad 2 (n / 3600) ++ ":" ++ zeroPad 2 (n / 60 % 60) ++
    (if n % 60 = 0 then "" else ":" ++ zeroPad 2 (n % 60))

/-- Day and clock time joined by a separator, with microseconds and offset where there are any. -/
def textWith (separator : String) (t : DateTime) : String :=
  t.date.isoText ++ separator ++ t.clockText ++
    (if t.micro.val = 0 then "" else "." ++ zeroPad 6 t.micro) ++
    (match t.offset with
      | none => ""
      | some offset => offsetText offset)

def isoText (t : DateTime) : String :=
  textWith "T" t

/-- The text of a time in a message. -/
def text (t : DateTime) : String :=
  textWith " " t

/-- Day and clock time to the second, the year written without leading zeros. -/
def stampText (t : DateTime) : String :=
  t.date.textWith 0 ++ " " ++ t.clockText

end DateTime

end SplitTest

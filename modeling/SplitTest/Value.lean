import SplitTest.Assignments
import SplitTest.Calendar.DateTime
import SplitTest.Number.Decimal
import SplitTest.Number.Shortest
import SplitTest.Text.Quoted

/-! The values of definition documents and of warehouse cells.  A document is built from nulls,
truth values, numbers, texts, lists and objects; a warehouse returns decimals, days and times too.
`Value.display` is the text of a value and `Value.shown` its text inside a list or a message, where
texts stand between quotes. -/

namespace SplitTest

/-- A value of a document or a cell.  The fields of an object keep their order. -/
inductive Value
  | null
  | bool (b : Bool)
  | int (n : Int)
  | float (x : Double)
  | decimal (d : Decimal)
  | text (s : String)
  | date (d : Date)
  | datetime (t : DateTime)
  | list (items : List Value)
  | object (fields : List (String × Value))

namespace Value

instance : Inhabited Value := ⟨null⟩

/-- The text of a number or a named value, or nothing for any other value. -/
def atomText : Value → String
  | null => "None"
  | bool b => if b then "True" else "False"
  | int n => toString n
  | float x => x.text
  | _ => ""

/-- The fields of a day. -/
def dateFields (d : Date) : List Nat :=
  [d.year, d.month, d.dayOfMonth]

/-- The fields of a time; seconds and microseconds are left out from the end where they are zero. -/
def timeFields (t : DateTime) : List Nat :=
  dateFields t.date ++ [t.hour, t.minute] ++
    (if t.micro.val = 0 then if t.secondOfMinute = 0 then [] else [t.secondOfMinute]
    else [t.secondOfMinute, t.micro.val])

/-- The name of the zone with an offset: that of UTC, or the days and seconds of the offset. -/
def zoneShown (offset : Int) : String :=
  let part (name : String) (n : Int) := if n = 0 then [] else [name ++ "=" ++ toString n]
  if offset = 0 then "datetime.timezone.utc"
  else "datetime.timezone(datetime.timedelta(" ++ ", ".intercalate
    (part "days" (offset / 86400) ++ part "seconds" (offset % 86400)) ++ "))"

/-- A day inside a list or a message, by its fields. -/
def dateShown (d : Date) : String :=
  "datetime.date(" ++ ", ".intercalate ((dateFields d).map toString) ++ ")"

/-- A time inside a list or a message, by its fields and its zone. -/
def timeShown (t : DateTime) : String :=
  "datetime.datetime(" ++ ", ".intercalate ((timeFields t).map toString ++
    (match t.offset with
      | none => []
      | some offset => ["tzinfo=" ++ zoneShown offset])) ++ ")"

mutual

/-- The text of a value inside a list, an object or a message. -/
def shown : Value → String
  | text s => Text.quoted s
  | list items => "[" ++ ", ".intercalate (shownItems items) ++ "]"
  | object fields => "\x7b" ++ ", ".intercalate (shownFields fields) ++ "\x7d"
  | decimal d => "Decimal(" ++ Text.quoted d.text ++ ")"
  | date d => dateShown d
  | datetime t => timeShown t
  | v => atomText v

def shownItems : List Value → List String
  | [] => []
  | v :: rest => shown v :: shownItems rest

/-- The texts of the fields of an object. -/
def shownFields : List (String × Value) → List String
  | [] => []
  | (key, v) :: rest => (Text.quoted key ++ ": " ++ shown v) :: shownFields rest

end

/-- The text of a value by itself. -/
def display : Value → String
  | text s => s
  | decimal d => d.text
  | date d => d.isoText
  | datetime t => t.text
  | v => shown v

/-- A value that counts as absent: null, false, a zero, or an empty text, list or object. -/
def isEmpty : Value → Bool
  | null => true
  | bool b => !b
  | int n => n == 0
  | float x => x.isZero
  | decimal (.finite _ n _) => n == 0
  | decimal _ => false
  | text s => s.isEmpty
  | date _ => false
  | datetime _ => false
  | list items => items.isEmpty
  | object fields => fields.isEmpty

/-- The field of an object with a given key. -/
def field? (key : String) (fields : List (String × Value)) : Option Value :=
  fields.lookup key

/-- The fields with each key once: at its first place, with its last value. -/
def dedupe (fields : List (String × Value)) : List (String × Value) :=
  fields.foldl (fun acc f => assign f.1 f.2 acc) []

end Value

end SplitTest

import SplitTest.Calendar.Iso
import SplitTest.Schema.Issue
import SplitTest.Value

/-! Reading definition documents.  A `Checked` result is a value or all the issues that stand in the
way of one: two results combined fail with the issues of both, in order.  The readers are for JSON
documents, in which there are no decimals and no days: a value of these kinds, as a warehouse
returns it, is of the wrong type.  Otherwise they are lenient: numbers and times may come as texts
and truth values as words, and a field that a definition does not know is passed over. -/

namespace SplitTest

/-- A value, or every issue that stands in its way. -/
inductive Checked (α : Type)
  | ok (a : α)
  | failed (issues : List Issue)

namespace Checked

variable {α β : Type}

/-- Applies a checked function to a checked value. -/
def apply : Checked (α → β) → Checked α → Checked β
  | ok f, ok a => ok (f a)
  | ok _, failed e => failed e
  | failed e, ok _ => failed e
  | failed e, failed e' => failed (e ++ e')

/-- Changes the value. -/
def map (f : α → β) : Checked α → Checked β
  | ok a => ok (f a)
  | failed e => failed e

/-- Checks the value further; what fails at first is not checked further. -/
def andThen (x : Checked α) (f : α → Checked β) : Checked β :=
  match x with
  | ok a => f a
  | failed e => failed e

/-- Failure by one problem of the value itself. -/
def problem (p : Problem) : Checked α :=
  failed [⟨[], p⟩]

/-- The result seen from the value that holds the value under `step`. -/
def under (step : String) : Checked α → Checked α
  | ok a => ok a
  | failed e => failed (e.map (Issue.under step))

instance : Applicative Checked where
  pure := ok
  map := map
  seq f x := apply f (x ())

/-- Checks the values of a list, `index` being the position of the first. -/
def all (read : Value → Checked α) (index : Nat) : List Value → Checked (List α)
  | [] => ok []
  | v :: rest => List.cons <$> (read v).under (toString index) <*> all read (index + 1) rest

end Checked

namespace Reader

open Checked Text

variable {α : Type}

def text : Value → Checked String
  | .text s => ok s
  | _ => problem .stringType

/-- Reads a value that may be null. -/
def optional (read : Value → Checked α) : Value → Checked (Option α)
  | .null => ok none
  | v => (read v).map some

/-- Drops the zeros and underscores at the start of a digit text, but not its last digit. -/
def dropLeadingZeros : List Char → List Char
  | c :: d :: rest =>
    if (c == '0' || c == '_') && (d == '_' || (asciiDigit? d).isSome) then
      dropLeadingZeros (d :: rest)
    else c :: d :: rest
  | cs => cs

/-- Drops a point with nothing but zeros after it from the end of a number text. -/
def dropZeroFraction (cs : List Char) : List Char :=
  match cs.dropWhile (· != '.') with
  | '.' :: zs => if zs.all (· == '0') then cs.takeWhile (· != '.') else cs
  | _ => cs

/-- Reads the digits of a whole number: zeros in front, a fraction of zeros and underscores between
digits are allowed. -/
def wholeDigits? (cs : List Char) : Option Nat :=
  match cs with
  | [] => none
  | c :: _ =>
    if (asciiDigit? c).isNone then none
    else
      let significant := if c == '0' then dropLeadingZeros cs else cs
      match Numeral.dropUnderscores false (dropZeroFraction significant) with
      | none => none
      | some digits =>
        match Numeral.splitDigits digits with
        | (ds, []) => if ds.isEmpty then none else some (ofDigits ds)
        | _ => none

/-- Reads the text of a whole number. -/
def intText (s : String) : Checked Int :=
  let cs := trimBy isSpace s.toList
  if digitLimit < cs.length then problem .intParsingSize
  else
    let (negative, rest) := Numeral.splitSign cs
    match wholeDigits? rest with
    | some n => ok (if negative then -(n : Int) else n)
    | none => problem .intParsing

/-- The whole number that a floating point number is. -/
def intDouble (x : Double) : Checked Int :=
  match x.truncate? with
  | none => problem .finiteNumber
  | some n =>
    if !x.isWhole then problem .intFromFloat
    else if n.natAbs < Nat.pow 2 63 then ok n
    else problem .intParsingSize

/-- Reads a whole number. -/
def int : Value → Checked Int
  | .int n => ok n
  | .bool b => ok (if b then 1 else 0)
  | .float x => intDouble x
  | .text s => intText s
  | _ => problem .intType

/-- Whether underscores stand only singly and inside a text; the flag says whether an underscore may
not come next. -/
def singleUnderscores : Bool → List Char → Bool
  | barred, [] => !barred
  | barred, c :: rest =>
    if c == '_' then !barred && singleUnderscores true rest else singleUnderscores false rest

/-- Reads a number text: blanks around a numeral, or single underscores inside it. -/
def doubleText? (s : String) : Option Double :=
  match Double.ofNumeral? (trimBy isSpace s.toList) with
  | some x => some x
  | none =>
    if singleUnderscores true s.toList then Double.ofNumeral? (s.toList.filter (· != '_'))
    else none

/-- Reads a floating point number. -/
def double : Value → Checked Double
  | .float x => ok x
  | .int n =>
    match Double.ofInt? n with
    | some x => ok x
    | none => problem .floatType
  | .bool b => ok (Double.ofNat (if b then 1 else 0))
  | .text s =>
    match doubleText? s with
    | some x => ok x
    | none => problem .floatParsing
  | _ => problem .floatType

/-- The words for false and for true. -/
def falseWords : List String := ["0", "off", "f", "false", "n", "no"]

def trueWords : List String := ["1", "on", "t", "true", "y", "yes"]

/-- Reads a truth value. -/
def bool : Value → Checked Bool
  | .bool b => ok b
  | .int n =>
    if n = 0 then ok false else if n = 1 then ok true
    else if n.natAbs < Nat.pow 2 63 then problem .boolParsing
    else problem .boolType
  | .float x =>
    match intDouble x with
    | ok n => if n = 0 then ok false else if n = 1 then ok true else problem .boolParsing
    | failed _ => problem .boolType
  | .text s =>
    let word := s.map Char.toLower
    if falseWords.contains word then ok false
    else if trueWords.contains word then ok true
    else problem .boolParsing
  | _ => problem .boolType

/-- The problem with a value that is no time. -/
def timeProblem : DateTime.ReadError → Problem
  | .wrongType => .datetimeType
  | .outOfRange => .datetimeParsing
  | .malformed => .datetimeFromDateParsing

/-- The time that a value denotes. -/
def time? : Value → Except DateTime.ReadError DateTime
  | .datetime t => .ok t
  | .text s => DateTime.ofDefinitionText s
  | .int n => DateTime.ofCount n 0
  | .float x => DateTime.ofDoubleCount x
  | _ => .error .wrongType

def time (v : Value) : Checked DateTime :=
  match time? v with
  | .ok t => ok t
  | .error e => problem (timeProblem e)

/-- Reads a word of a fixed vocabulary. -/
def word (p : Problem) (words : List (String × α)) : Value → Checked α
  | .text s =>
    match words.lookup s with
    | some a => ok a
    | none => problem p
  | _ => problem p

def list (read : Value → Checked α) : Value → Checked (List α)
  | .list items => all read 0 items
  | _ => problem .listType

/-- Reads the texts of an object's fields. -/
def textFields : List (String × Value) → Checked (List (String × String))
  | [] => ok []
  | (key, v) :: rest =>
    (fun s rest => (key, s) :: rest) <$> (text v).under key <*> textFields rest

/-- Reads an object whose fields are texts. -/
def textMap : Value → Checked (List (String × String))
  | .object fields => textFields fields
  | _ => problem .dictType

/-- Reads a definition from the fields of an object. -/
def object (read : List (String × Value) → Checked α) : Value → Checked α
  | .object fields => read fields
  | _ => problem .modelType

/-- A field that must be present. -/
def required (name : String) (read : Value → Checked α) (fields : List (String × Value)) :
    Checked α :=
  match Value.field? name fields with
  | some v => (read v).under name
  | none => failed [⟨[name], .missing⟩]

/-- A field that takes a default when it is absent. -/
def withDefault (name : String) (default : α) (read : Value → Checked α)
    (fields : List (String × Value)) : Checked α :=
  match Value.field? name fields with
  | some v => (read v).under name
  | none => ok default

end Reader

end SplitTest

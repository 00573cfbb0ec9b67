import SplitTest.Text.Blank
import SplitTest.Text.Case
import SplitTest.Text.Digit
import SplitTest.Text.Word

/-! The words of a date text.  `Word.split` cuts a text into runs of letters, numbers, single spaces
and single other characters; a point or a comma inside a number belongs to the number.  The other
definitions say what a word can mean: a weekday, a month, a unit of time, half of the day, or
nothing that matters. -/

namespace SplitTest.Word

open Text

/-- A letter of any script. -/
def isLetter (c : Char) : Bool :=
  isAlphanumeric c && !isDigit c

/-- What is being read. -/
inductive Mode
  | letters
  | number
  /-- Letters with points between them. -/
  | dottedLetters
  /-- Digits with points between them. -/
  | dottedNumber
  deriving DecidableEq

/-- Splits a text at points and commas, which become pieces of their own; empty pieces are left
out. -/
def splitMarks (piece : List Char) : List Char → List (List Char)
  | [] => if piece.isEmpty then [] else [piece.reverse]
  | c :: rest =>
    if c == '.' || c == ',' then
      (if piece.isEmpty then [] else [piece.reverse]) ++ [[c]] ++ splitMarks [] rest
    else splitMarks (c :: piece) rest

/-- The words that the characters of a finished word make: a dotted word falls apart at its points
unless it is a plain number with a fraction. -/
def finish (mode : Mode) (sawLetters : Bool) (word : List Char) : List (List Char) :=
  match mode with
  | .letters | .number => [word]
  | .dottedLetters | .dottedNumber =>
    let endsInMark := word.getLast? == some '.' || word.getLast? == some ','
    if sawLetters || 1 < word.count '.' || endsInMark then
      splitMarks [] word
    else if mode = .dottedNumber && word.count '.' == 0 then
      [word.map fun c => if c == ',' then '.' else c]
    else [word]

/-- Reads a text from inside a word, whose characters so far are given in reverse; `none` stands
between words. -/
def splitFrom : Option (Mode × Bool × List Char) → List Char → List (List Char)
  | none, [] => []
  | some (mode, saw, acc), [] => finish mode saw acc.reverse
  | none, c :: rest =>
    if isLetter c then splitFrom (some (.letters, false, [c])) rest
    else if isDigit c then splitFrom (some (.number, false, [c])) rest
    else [if isBlank c then ' ' else c] :: splitFrom none rest
  | some (mode, saw, acc), c :: rest =>
    let dot := c == '.'
    let afterDot := acc.head? == some '.'
    let next : Option (Mode × Bool × List Char) :=
      match mode with
      | .letters =>
        if isLetter c then some (.letters, true, c :: acc)
        else if dot then some (.dottedLetters, true, c :: acc)
        else none
      | .number =>
        if isDigit c then some (.number, saw, c :: acc)
        else if dot || (c == ',' && 2 ≤ acc.length) then some (.dottedNumber, saw, c :: acc)
        else none
      | .dottedLetters =>
        if dot || isLetter c then some (.dottedLetters, true, c :: acc)
        else if isDigit c && afterDot then some (.dottedNumber, true, c :: acc)
        else none
      | .dottedNumber =>
        if dot || isDigit c then some (.dottedNumber, saw, c :: acc)
        else if isLetter c && afterDot then some (.dottedLetters, saw, c :: acc)
        else none
    match next with
    | some state => splitFrom (some state) rest
    | none =>
      let saw := saw || mode = .letters || mode = .dottedLetters
      finish mode saw acc.reverse ++
        (if isLetter c then splitFrom (some (.letters, false, [c])) rest
        else if isDigit c then splitFrom (some (.number, false, [c])) rest
        else [if isBlank c then ' ' else c] :: splitFrom none rest)

/-- The words of a text. -/
def split (s : String) : List String :=
  (splitFrom none (s.toList.filter (·.toNat != 0))).map String.ofList

/-- The position of the group of names that a word belongs to, in any case. -/
def indexIn (groups : List (List String)) (word : String) : Option Nat :=
  groups.findIdx? (·.contains (lower word))

/-- Words without a meaning of their own. -/
def fillers : List String :=
  [" ", ".", ",", ";", "-", "/", String.singleton (Char.ofNat 39), "at", "on", "and", "ad", "m",
    "t", "of", "st", "nd", "rd", "th"]

/-- A word without a meaning of its own. -/
def isFiller (word : String) : Bool :=
  fillers.contains (lower word)

/-- The weekday that a word names, Monday being 0. -/
def weekday? : String → Option Nat :=
  indexIn [["mon", "monday"], ["tue", "tuesday"], ["wed", "wednesday"], ["thu", "thursday"],
    ["fri", "friday"], ["sat", "saturday"], ["sun", "sunday"]]

def month? (word : String) : Option Nat :=
  (indexIn [["jan", "january"], ["feb", "february"], ["mar", "march"], ["apr", "april"], ["may"],
    ["jun", "june"], ["jul", "july"], ["aug", "august"], ["sep", "sept", "september"],
    ["oct", "october"], ["nov", "november"], ["dec", "december"]] word).map (· + 1)

inductive Unit
  | hours
  | minutes
  | seconds
  deriving DecidableEq

/-- The next smaller unit. -/
def Unit.next? : Unit → Option Unit
  | hours => some minutes
  | minutes => some seconds
  | seconds => none

def unit? (word : String) : Option Unit :=
  let names :=
    [["h", "hour", "hours"], ["m", "minute", "minutes"], ["s", "second", "seconds"]]
  match indexIn names word
    with
  | some 0 => some .hours
  | some 1 => some .minutes
  | some _ => some .seconds
  | none => none

/-- Whether a word names the second half of the day. -/
def afternoon? (word : String) : Option Bool :=
  (indexIn [["am", "a"], ["pm", "p"]] word).map (· == 1)

/-- A name of UTC. -/
def isUtcName (word : String) : Bool :=
  ["utc", "gmt", "z"].contains (lower word)

/-- A word that looks like the name of a time zone. -/
def looksLikeZone (word : String) : Bool :=
  word.length ≤ 5 && (word.toList.all Char.isUpper || word == "z")

end SplitTest.Word

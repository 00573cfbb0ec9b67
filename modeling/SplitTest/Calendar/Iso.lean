import SplitTest.Calendar.DateTime
import SplitTest.Number.Numeral

/-! Exact date and time texts.  `DateTime.ofIso?` reads the form that `DateTime.isoText` writes.
`DateTime.ofDefinition` reads the freer forms of a definition document: an ISO text with a choice of
separators, or a number of seconds or milliseconds since the start of 1970. -/

namespace SplitTest

namespace Iso

open Numeral Text

/-- Reads exactly `n` ASCII digits, after the digits that make `acc`. -/
def digitsFrom (acc : Nat) : Nat → List Char → Option (Nat × List Char)
  | 0, cs => some (acc, cs)
  | _ + 1, [] => none
  | n + 1, c :: cs => (asciiDigit? c).bind fun d => digitsFrom (10 * acc + d) n cs

/-- Reads exactly `n` ASCII digits. -/
def digits (n : Nat) (cs : List Char) : Option (Nat × List Char) :=
  digitsFrom 0 n cs

/-- Reads one given character. -/
def char (c : Char) : List Char → Option (List Char)
  | d :: cs => if d == c then some cs else none
  | [] => none

/-- Reads year, month and day, two hyphens between them. -/
def ymd (cs : List Char) : Option ((Nat × Nat × Nat) × List Char) := do
  let (year, cs) ← digits 4 cs
  let cs ← char '-' cs
  let (month, cs) ← digits 2 cs
  let cs ← char '-' cs
  let (day, cs) ← digits 2 cs
  some ((year, month, day), cs)

/-- Reads a calendar day. -/
def date (cs : List Char) : Option (Date × List Char) := do
  let ((year, month, day), cs) ← ymd cs
  let d ← Date.ofFields? year month day
  some (d, cs)

/-- The microseconds that fraction digits denote, digits past the sixth being dropped. -/
def microOf (ds : List Nat) : Nat :=
  ofDigits ((ds ++ List.replicate 6 0).take 6)

/-- Reads an optional fraction of a second, in microseconds. -/
def fraction : List Char → Option (Nat × List Char)
  | c :: cs =>
    if c == '.' || c == ',' then
      match splitDigits cs with
      | ([], _) => none
      | (ds, rest) => some (microOf ds, rest)
    else some (0, c :: cs)
  | [] => some (0, [])

/-- Reads hour and minute, and second and fraction where they are present. -/
def clock (cs : List Char) : Option ((Nat × Nat × Nat × Nat) × List Char) := do
  let (hour, cs) ← digits 2 cs
  let cs ← char ':' cs
  let (minute, cs) ← digits 2 cs
  match cs with
  | ':' :: cs =>
    let (second, cs) ← digits 2 cs
    let (micro, cs) ← fraction cs
    some ((hour, minute, second, micro), cs)
  | cs => some ((hour, minute, 0, 0), cs)

/-- The sign that a character stands for in an offset, as a factor; the mathematical minus sign is
one of them. -/
def signOf (c : Char) : Option Int :=
  if c == '+' then some 1 else if c == '-' || c.toNat == 0x2212 then some (-1) else none

/-- Reads an offset at the end of a text: nothing, `Z`, or a sign with hours and minutes below a
day, a colon between them being optional. -/
def zone : List Char → Option (Option Int)
  | [] => some none
  | c :: cs =>
    if (c == 'Z' || c == 'z') && cs.isEmpty then some (some 0)
    else do
      let sign ← signOf c
      let (hour, cs) ← digits 2 cs
      let (minute, cs) ← digits 2 (match cs with | ':' :: r => r | r => r)
      if cs.isEmpty && hour < 24 && minute < 60 then
        some (some (sign * (hour * 3600 + minute * 60 : Nat)))
      else none

/-- Reads an offset of hours, minutes and optional seconds at the end of a text, joined by
colons. -/
def exactZone : List Char → Option (Option Int)
  | [] => some none
  | c :: cs => do
    let sign ← signOf c
    let (hour, cs) ← digits 2 cs
    let cs ← char ':' cs
    let (minute, cs) ← digits 2 cs
    match cs with
    | [] => some (some (sign * (hour * 3600 + minute * 60 : Nat)))
    | cs =>
      let cs ← char ':' cs
      let (second, cs) ← digits 2 cs
      if cs.isEmpty then some (some (sign * (hour * 3600 + minute * 60 + second : Nat))) else none

end Iso

namespace Date

/-- Reads the text that `Date.isoText` writes. -/
def ofIso? (s : String) : Option Date :=
  match Iso.date s.toList with
  | some (d, []) => some d
  | _ => none

end Date

namespace DateTime

open Iso Text

/-- Reads the text that `DateTime.isoText` writes. -/
def ofIso? (s : String) : Option DateTime := do
  let (d, cs) ← Iso.date s.toList
  let cs ← char 'T' cs
  let ((hour, minute, second, micro), cs) ← Iso.clock cs
  let offset ← exactZone cs
  ofFields? d hour minute second micro offset

/-- Why a definition's value is no time. -/
inductive ReadError
  /-- The value is neither a text nor a number. -/
  | wrongType
  /-- The year is 0, or the number is out of range. -/
  | outOfRange
  /-- The text has none of the forms. -/
  | malformed
  deriving DecidableEq

/-- The number of the day 1 January 1970. -/
def epochDay : Nat := 719162

/-- The largest number of seconds; a larger number counts milliseconds. -/
def watershed : Nat := 20000000000

/-- The first and the last second since the start of 1970 that a number may denote. -/
def secondBounds : Int × Int := (-62135596800, 253402300799)

/-- The time, in UTC, that a count since the start of 1970 denotes, with `micro` microseconds to be
added. -/
def ofCount (n : Int) (micro : Nat) : Except ReadError DateTime :=
  let (seconds, micro) :=
    if n.natAbs ≤ watershed then (n, micro)
    else (n / 1000, (n % 1000).toNat * 1000 + micro)
  let seconds := seconds + (micro / 1000000 : Nat)
  if seconds < secondBounds.1 || secondBounds.2 < seconds then .error .outOfRange
  else
    match ofClock? (seconds + epochDay * secondsPerDay) ⟨micro % 1000000, by omega⟩ with
    | some t => .ok { t with offset := some 0 }
    | none => .error .outOfRange

/-- The time that a floating point count denotes, to the nearest microsecond, a half going up. -/
def ofDoubleCount (x : Double) : Except ReadError DateTime :=
  match x.units? with
  | none => .error .outOfRange
  | some u =>
    let whole := u / Double.one
    let part := (u % Double.one).toNat
    let scale := if whole.natAbs ≤ watershed then 1000000 else 1000
    ofCount whole ((2 * part * scale + Double.one) / (2 * Double.one))

/-- The largest count that a text may spell. -/
def countLimit : Nat := Nat.pow 2 63

/-- Reads the text of a count: digits with an optional sign and fraction. -/
def ofCountText (s : String) : Except ReadError DateTime :=
  let (negative, rest) := Numeral.splitSign s.toList
  let (whole, rest) := Numeral.splitDigits rest
  if whole.isEmpty then .error .malformed
  else
    let n : Int := ofDigits whole
    let n := if negative then -n else n
    let count := match rest with
      | [] => if n.natAbs < countLimit then ofCount n 0 else .error .malformed
      | '.' :: fraction =>
        match Numeral.splitDigits fraction with
        | (_, []) =>
          match Double.ofNumeral? s.toList with
          | some x => ofDoubleCount x
          | none => .error .malformed
        | _ => .error .malformed
      | _ => .error .malformed
    count.mapError fun _ => .malformed

/-- Reads a time text of a definition. -/
def ofDefinitionText (s : String) : Except ReadError DateTime :=
  match ymd s.toList with
  | none => ofCountText s
  | some ((year, month, day), rest) =>
    let build (hour minute second micro : Nat) (offset : Option Int) : Except ReadError DateTime :=
      if year = 0 && (Date.monthLength? 0 month).any (fun length => 1 ≤ day && day ≤ length) &&
          (ofFields? default hour minute second micro offset).isSome then .error .outOfRange
      else
        match (Date.ofFields? year month day).bind fun d =>
            ofFields? d hour minute second micro offset with
        | some t => .ok t
        | none => .error .malformed
    match rest with
    | [] => build 0 0 0 0 none
    | c :: rest =>
      if c == 'T' || c == 't' || c == ' ' || c == '_' then
        match Iso.clock rest with
        | none => .error .malformed
        | some ((hour, minute, second, micro), rest) =>
          match zone rest with
          | none => .error .malformed
          | some offset => build hour minute second micro offset
      else .error .malformed

end DateTime

end SplitTest

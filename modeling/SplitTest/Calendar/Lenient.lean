import SplitTest.Calendar.DateTime
import SplitTest.Calendar.DayParts
import SplitTest.Calendar.Word
import SplitTest.Number.Numeral

/-! Date texts of any common form.  A text is read word by word: numbers are taken for a clock time
when a colon, a unit or half of the day stands next to them and for parts of the date otherwise;
names of weekdays, months and zones have their meaning; a few words are passed over, and any other
word makes the text unreadable.  Parts of the date that a text leaves out are those of the day on
which it is read. -/

namespace SplitTest.Lenient

open Text Word

/-- What the clock adds to a text. -/
structure Reference where
  /-- The day on which the text is read, whose parts are taken where the text leaves them out. -/
  day : Date
  /-- The year, as of the reader's start, around which years of two digits lie. -/
  year : Nat

/-- What has been read of a text. -/
structure Reading where
  parts : DayParts
  weekday : Option Nat
  hour : Option Nat
  minute : Option Nat
  second : Option Nat
  micro : Option Nat
  zoneName : Option String
  zoneOffset : Option Int

/-- Nothing read yet. -/
def Reading.start : Reading :=
  ⟨.none, none, none, none, none, none, none, none⟩

/-- The whole number that a word of digits denotes. -/
def whole? (word : String) : Option Nat :=
  if word.isEmpty then none
  else if digitLimit < word.length then none
  else (word.toList.mapM digit?).map ofDigits

/-- A number with a decimal fraction, `digits / 10 ^ places`. -/
structure Quantity where
  digits : Nat
  places : Nat

namespace Quantity

/-- Reads a number with an optional fraction. -/
def read? (word : String) : Option Quantity :=
  let (whole, rest) := Numeral.splitDigits (word.toList.map Numeral.asciiDigit)
  match whole, rest with
  | [], _ => none
  | ds, [] => some ⟨ofDigits ds, 0⟩
  | ds, '.' :: fraction =>
    match Numeral.splitDigits fraction with
    | (fs, []) => some ⟨ofDigits (ds ++ fs), fs.length⟩
    | _ => none
  | _, _ => none

def whole (q : Quantity) : Nat := q.digits / Nat.pow 10 q.places

/-- Whether there is a fraction other than zero. -/
def hasFraction (q : Quantity) : Bool := q.digits % Nat.pow 10 q.places != 0

/-- The whole sixtieths of the fraction. -/
def sixtieths (q : Quantity) : Nat := 60 * (q.digits % Nat.pow 10 q.places) / Nat.pow 10 q.places

/-- The number lies between two whole numbers, both included. -/
def between (q : Quantity) (low high : Nat) : Bool :=
  low * Nat.pow 10 q.places ≤ q.digits && q.digits ≤ high * Nat.pow 10 q.places

end Quantity

/-- Seconds and microseconds. -/
def seconds? (word : String) : Option (Nat × Nat) :=
  match word.toList.splitOn '.' with
  | [n] => (whole? (String.ofList n)).map (·, 0)
  | [n, fraction] => do
    let s ← whole? (String.ofList n)
    let f ← whole? (String.ofList ((fraction ++ List.replicate 6 '0').take 6))
    some (s, f)
  | _ => none

/-- The characters of a word from one position to another. -/
def slice (word : String) (first last : Nat) : String :=
  String.ofList ((word.toList.take last).drop first)

namespace Reading

/-- Adds a part of the date from a word of digits; three or more digits are a year. -/
def addWord (r : Reading) (word : String) (label : Option DayParts.Label) : Option Reading := do
  let n ← whole? word
  let parts ← r.parts.add n (2 < word.length) label
  some { r with parts }

def addMonth (r : Reading) (month : Nat) : Option Reading := do
  let parts ← r.parts.add month false (some .month)
  some { r with parts }

/-- Adds a part of the date from a word that may be the name of a month. -/
def addWordOrMonth (r : Reading) (word : String) : Option Reading :=
  match month? word with
  | some m => r.addMonth m
  | none => r.addWord word none

/-- Adds a part of the date from a number, dropping its fraction; a number above 100 is a year. -/
def addQuantity (r : Reading) (q : Quantity) : Option Reading := do
  let parts ← r.parts.add q.whole (!q.between 0 100) none
  some { r with parts }

/-- Sets minute and second from a number of minutes. -/
def setMinutes (r : Reading) (q : Quantity) : Reading :=
  { r with minute := some q.whole, second := if q.hasFraction then some q.sixtieths else none }

def setSeconds (r : Reading) (word : String) : Option Reading :=
  (seconds? word).map fun (s, f) => { r with second := some s, micro := some f }

/-- Sets the hour of a clock with two halves of the day. -/
def setHour (r : Reading) (hour : Nat) (afternoon : Bool) : Reading :=
  { r with hour := some (if hour < 12 && afternoon then hour + 12
      else if hour = 12 && !afternoon then 0 else hour) }

/-- Sets what a number with a unit says. -/
def setUnit (r : Reading) (word : String) (q : Quantity) : Option Word.Unit → Option Reading
  | some .hours =>
    let r := { r with hour := some q.whole }
    some (if q.hasFraction then { r with minute := some q.sixtieths } else r)
  | some .minutes => some (r.setMinutes q)
  | some .seconds => r.setSeconds word
  | none => some r

/-- Whether a word can name the zone of the time read so far. -/
def canNameZone (r : Reading) (offset : Option Int) (word : String) : Bool :=
  r.hour.isSome && r.zoneName.isNone && offset.isNone && looksLikeZone word

end Reading

/-- The unit of the number at a position, and the position of the last word that belongs to it.  The
unit stands after the number, perhaps with a space between; or the number goes on after a unit, and
has the next smaller one. -/
def unitAt (words : Array String) (i : Nat) : Option (Nat × Option Word.Unit) :=
  let unit (j : Nat) := (words[j]?).bind unit?
  match unit (i + 1) with
  | some u => some (i + 1, some u)
  | none =>
    match if words[i + 1]? = some " " then unit (i + 2) else none with
    | some u => some (i + 2, some u)
    | none =>
      match if 0 < i then unit (i - 1) else none with
      | some u => some (i, u.next?)
      | none =>
        match
          if 1 < i && i + 1 == words.size && words[i - 1]? = some " " then unit (i - 2) else none
          with
        | some u => some (i, u.next?)
        | none => none

/-- Reads the clock time that begins at a position and goes on after a colon. -/
def readClock (words : Array String) (i : Nat) (r : Reading) (q : Quantity) :
    Option (Nat × Reading) := do
  let minutes ← (words[i + 2]?).bind Quantity.read?
  let r := { r with hour := some q.whole }.setMinutes minutes
  match words[i + 3]?, words[i + 4]? with
  | some ":", some s => some (i + 5, ← r.setSeconds s)
  | _, _ => some (i + 3, r)

/-- Reads a date whose parts are joined by a separator, from its first part on. -/
def readJoined (words : Array String) (i : Nat) (r : Reading) (separator : String) :
    Option (Nat × Reading) := do
  let r ← r.addWord words[i]! none
  match words[i + 2]? with
  | none => some (i + 2, r)
  | some second =>
    if isFiller second then some (i + 2, r)
    else
      let r ← if second.toList.all isDigit then r.addWord second none
        else (month? second).bind r.addMonth
      if words[i + 3]? = some separator then
        let third ← words[i + 4]?
        some (i + 5, ← r.addWordOrMonth third)
      else some (i + 3, r)

/-- Reads the number at a position; gives the position after what belongs to it. -/
def readNumber (words : Array String) (i : Nat) (r : Reading) : Option (Nat × Reading) := do
  let word ← words[i]?
  let q ← Quantity.read? word
  let next := words[i + 1]?
  let length := word.length
  if r.parts.numbers.length = 3 && (length = 2 || length = 4) && r.hour.isNone &&
      next.all (fun w => w != ":" && (unit? w).isNone) then
    let r := { r with hour := some (← whole? (slice word 0 2)) }
    if length = 4 then some (i + 1, { r with minute := some (← whole? (slice word 2 4)) })
    else some (i + 1, r)
  else if length = 6 || (6 < length && word.toList.idxOf? '.' == some 6) then
    if r.parts.numbers.isEmpty && !word.toList.contains '.' then
      let r ← r.addWord (slice word 0 2) none
      let r ← r.addWord (slice word 2 4) none
      some (i + 1, ← r.addWord (slice word 4 length) none)
    else
      let r := { r with hour := some (← whole? (slice word 0 2)) }
      let r := { r with minute := some (← whole? (slice word 2 4)) }
      some (i + 1, ← r.setSeconds (slice word 4 length))
  else if length = 8 || length = 12 || length = 14 then
    let r ← r.addWord (slice word 0 4) (some .year)
    let r ← r.addWord (slice word 4 6) none
    let r ← r.addWord (slice word 6 8) none
    if length = 8 then some (i + 1, r)
    else
      let r := { r with hour := some (← whole? (slice word 8 10)) }
      let r := { r with minute := some (← whole? (slice word 10 12)) }
      if length = 12 then some (i + 1, r)
      else some (i + 1, { r with second := some (← whole? (slice word 12 14)) })
  else
    match unitAt words i with
    | some (last, u) => some (last + 1, ← r.setUnit word q u)
    | none =>
      match next with
      | some ":" =>
        if i + 2 < words.size then readClock words i r q else none
      | some w =>
        if w == "-" || w == "/" || w == "." then readJoined words i r w
        else if isFiller w then
          match (words[i + 2]?).bind afternoon? with
          | some afternoon => some (i + 3, r.setHour q.whole afternoon)
          | none => some (i + 2, ← r.addQuantity q)
        else
          match afternoon? w with
          | some afternoon =>
            if q.whole < 24 then some (i + 2, r.setHour q.whole afternoon)
            else if q.between 1 r.parts.lengthOfMonth then some (i + 1, ← r.addQuantity q)
            else none
          | none =>
            if q.between 1 r.parts.lengthOfMonth then some (i + 1, ← r.addQuantity q) else none
      | none => some (i + 2, ← r.addQuantity q)

/-- The year that a year of two digits means, in the century around the reference year. -/
def fullYear (reference : Reference) (year : Nat) (written : Bool) : Nat :=
  if 100 ≤ year || written then year
  else
    let y := year + reference.year / 100 * 100
    if reference.year + 50 ≤ y then y - 100
    else if y < reference.year - 50 then y + 100
    else y

/-- Reads what follows the name of a month at a position. -/
def readMonth (reference : Reference) (words : Array String) (i : Nat) (r : Reading)
    (month : Nat) : Option (Nat × Reading) := do
  let r ← r.addMonth month
  match words[i + 1]? with
  | none => some (i + 1, r)
  | some w =>
    if w == "-" || w == "/" then
      let r ← r.addWord (← words[i + 2]?) none
      if words[i + 3]? = some w then
        some (i + 5, ← r.addWord (← words[i + 4]?) none)
      else some (i + 3, r)
    else if w == " " && words[i + 3]? = some " " &&
        (words[i + 2]?).any (fun of => lower of == "of") then
      match words[i + 4]? with
      | none => some (i + 1, r)
      | some year =>
        if year.toList.all isDigit then
          let n ← whole? year
          let n := fullYear reference n false
          some (i + 5, ← r.addWord (toString n) (some .year))
        else some (i + 5, r)
    else some (i + 1, r)

/-- Reads an offset after its sign at a position. -/
def readOffset (words : Array String) (i : Nat) (r : Reading) (sign : Int) :
    Option (Nat × Reading) := do
  let word ← words[i + 1]?
  let (i, hours, minutes) ←
    if word.length = 4 then do
      some (i, ← whole? (slice word 0 2), ← whole? (slice word 2 4))
    else if words[i + 2]? = some ":" then do
      some (i + 2, ← whole? word, ← (words[i + 3]?).bind whole?)
    else if word.length ≤ 2 then do some (i, ← whole? word, 0)
    else none
  let r := { r with zoneOffset := some (sign * (hours * 3600 + minutes * 60 : Nat)) }
  match words[i + 2]?, words[i + 3]?, words[i + 4]?, words[i + 5]? with
  | some space, some "(", some name, some ")" =>
    if isFiller space && 3 ≤ name.length && r.canNameZone none name then
      some (i + 6, { r with zoneName := some name })
    else some (i + 2, r)
  | _, _, _, _ => some (i + 2, r)

/-- The sign with the other direction. -/
def flipSign (sign : String) : String :=
  if sign == "+" then "-" else "+"

/-- Reads the name of a zone at a position.  A sign after it counts backwards: the name with the
offset added is UTC. -/
def readZone (words : Array String) (i : Nat) (r : Reading) (word : String) :
    Array String × Nat × Reading :=
  let r := { r with zoneName := some word, zoneOffset := if word == "z" then some 0 else none }
  match words[i + 1]? with
  | some sign =>
    if sign == "+" || sign == "-" then
      let r := { r with zoneOffset := none }
      (words.set! (i + 1) (flipSign sign), i + 1,
        if isUtcName word then { r with zoneName := none } else r)
    else (words, i + 1, r)
  | none => (words, i + 1, r)

/-- A word that names a number which is none of a date. -/
def isNoNumber (word : String) : Bool :=
  ["nan", "inf", "infinity"].contains (lower word)

/-- Reads the words from a position on.  `fuel` bounds the number of words. -/
def readFrom (reference : Reference) :
    (fuel : Nat) → Array String → Nat → Reading → Option Reading
  | 0, _, _, _ => none
  | fuel + 1, words, i, r =>
    match words[i]? with
    | none => some r
    | some word =>
      if (word.toList.head?).any isDigit then
        (readNumber words i r).bind fun (i, r) => readFrom reference fuel words i r
      else if isNoNumber word then none
      else if let some weekday := weekday? word then
        readFrom reference fuel words (i + 1) { r with weekday := some weekday }
      else if let some month := month? word then
        (readMonth reference words i r month).bind fun (i, r) =>
          readFrom reference fuel words i r
      else if let some afternoon := afternoon? word then
        match r.hour with
        | none => none
        | some hour =>
          if 12 < hour then none
          else readFrom reference fuel words (i + 1) (r.setHour hour afternoon)
      else if r.canNameZone r.zoneOffset word then
        let (words, i, r) := readZone words i r word
        readFrom reference fuel words i r
      else if r.hour.isSome && (word == "+" || word == "-") then
        (readOffset words i r (if word == "+" then 1 else -1)).bind fun (i, r) =>
          readFrom reference fuel words i r
      else if isFiller word then readFrom reference fuel words (i + 1) r
      else none

/-- The offset of the zone that was read; the name of UTC overrides a number. -/
def offsetOf (r : Reading) : Option Int :=
  match r.zoneName with
  | some name => if isUtcName name then some 0 else r.zoneOffset
  | none => r.zoneOffset

/-- The largest number of days in an offset. -/
def offsetDays : Int := 999999999

/-- The first day from a given one on that is a given weekday. -/
def onWeekday (d : Date) (weekday : Nat) : Option Date :=
  Date.ofNumber? (d.number + ((weekday + 7 - d.weekday) % 7 : Nat))

/-- The day of a month that has no day of its own: that of the day on which the text is read, or
the last one of a shorter month. -/
def dayWithin (today : Date) (year month : Nat) : Nat :=
  min today.dayOfMonth ((Date.monthLength? year month).getD today.dayOfMonth)

/-- Puts a time together from what was read. -/
def build (reference : Reference) (r : Reading) : Option DateTime := do
  let day ← r.parts.resolve
  let year := (day.year.map (fullYear reference · r.parts.fullYear)).getD reference.day.year
  let month := day.month.getD reference.day.month
  let date ← Date.ofFields? year month (day.day.getD (dayWithin reference.day year month))
  let date ← match r.weekday with
    | some weekday => if day.day.isNone then onWeekday date weekday else some date
    | none => some date
  let offset := offsetOf r
  if offset.any fun o => o / 86400 < -offsetDays || offsetDays < o / 86400 then none
  else
    DateTime.ofFields? date (r.hour.getD 0) (r.minute.getD 0) (r.second.getD 0) (r.micro.getD 0)
      offset

/-- Whether anything was read. -/
def isNonempty (r : Reading) : Bool :=
  !r.parts.numbers.isEmpty || r.weekday.isSome || r.hour.isSome || r.minute.isSome ||
    r.second.isSome || r.micro.isSome || r.zoneName.isSome || r.zoneOffset.isSome

/-- Reads a date text of any common form. -/
def read? (reference : Reference) (s : String) : Option DateTime := do
  let words := (Word.split s).toArray
  let r ← readFrom reference (words.size + 1) words 0 .start
  if isNonempty r then build reference r else none

end SplitTest.Lenient

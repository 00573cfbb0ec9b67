import SplitTest.Number.Places
import SplitTest.Value

/-! Templates of messages.  A template is a text with marks; a mark stands for the next argument, or
for a field of an object, and says how it is written: as a text, a whole number, a floating point
number or a character, and in how much space. -/

namespace SplitTest.Log

/-! ### Marks -/

/-- How a mark writes its argument; `upper` stands for capitals. -/
inductive Kind
  /-- The text of the argument. -/
  | display
  /-- The argument as it is shown. -/
  | shown
  /-- The argument as it is shown in ASCII. -/
  | ascii
  | whole
  | octal
  | hex (upper : Bool)
  | fixed (upper : Bool)
  | scientific (upper : Bool)
  | general (upper : Bool)
  | char

/-- The letters of the kinds. -/
def Kind.ofChar? : Char → Option Kind
  | 's' => some display
  | 'r' => some shown
  | 'a' => some ascii
  | 'd' | 'i' | 'u' => some whole
  | 'o' => some octal
  | 'x' => some (hex false)
  | 'X' => some (hex true)
  | 'f' => some (fixed false)
  | 'F' => some (fixed true)
  | 'e' => some (scientific false)
  | 'E' => some (scientific true)
  | 'g' => some (general false)
  | 'G' => some (general true)
  | 'c' => some char
  | _ => none

/-- A number in a mark: written there, or given by the next argument. -/
inductive Extent
  | written (n : Nat)
  | argument

/-- What a mark says beside its kind. -/
structure Mark where
  /-- The field that is written in place of the next argument. -/
  key : Option String := none
  /-- Digits have a prefix that tells their base, and floating point numbers keep their point. -/
  alternate : Bool := false
  /-- Numbers are filled with zeros. -/
  zeros : Bool := false
  /-- The argument stands on the left of its space. -/
  left : Bool := false
  /-- A blank stands in place of the sign of a number that is not negative. -/
  blank : Bool := false
  /-- A number that is not negative has a sign. -/
  plus : Bool := false
  width : Option Extent := none
  places : Option Extent := none

/-- A part of a template. -/
inductive Part
  | char (c : Char)
  | mark (m : Mark) (kind : Kind)

/-! ### Templates read -/

/-- What has been read of a mark. -/
inductive Place
  /-- No mark is open. -/
  | outside
  /-- A percent sign. -/
  | percent
  /-- A part of a key, last character first, and how many parentheses are open in it. -/
  | key (depth : Nat) (read : List Char)
  | flags
  /-- The first digits of the width. -/
  | widthDigits (n : Nat)
  /-- A width that an argument gives. -/
  | width
  | point
  /-- The first digits of the places. -/
  | placesDigits (n : Nat)
  /-- Places that an argument gives. -/
  | places
  /-- All but the kind. -/
  | size

/-- What has been read of a template; the parts stand last first. -/
structure TemplateReader where
  place : Place
  mark : Mark
  parts : List Part

namespace TemplateReader

def widthLimit : Nat := Nat.pow 2 63 - 1

/-- The largest number of places. -/
def placesLimit : Nat := Nat.pow 2 31 - 1

def initial : TemplateReader := ⟨.outside, {}, []⟩

variable (r : TemplateReader) (c : Char)

def readKind : Option TemplateReader :=
  (Kind.ofChar? c).map fun kind => ⟨.outside, {}, .mark r.mark kind :: r.parts⟩

/-- After the places there may be a letter for the size of a number, which says nothing. -/
def readSize : Option TemplateReader :=
  if c == 'h' || c == 'l' || c == 'L' then some { r with place := .size } else r.readKind c

def readPlacesDigit (n : Nat) : Option TemplateReader :=
  match Text.asciiDigit? c with
  | some d =>
    let n := 10 * n + d
    if placesLimit < n then none
    else some { r with
      place := .placesDigits n
      mark := { r.mark with places := some (.written n) } }
  | none => r.readSize c

/-- After the point the places are zero unless it says otherwise. -/
def readPlaces : Option TemplateReader :=
  if c == '*' then
    some { r with place := .places, mark := { r.mark with places := some .argument } }
  else r.readPlacesDigit c 0

def readPoint : Option TemplateReader :=
  if c == '.' then
    some { r with place := .point, mark := { r.mark with places := some (.written 0) } }
  else r.readSize c

def readWidthDigit (n : Nat) : Option TemplateReader :=
  match Text.asciiDigit? c with
  | some d =>
    let n := 10 * n + d
    if widthLimit < n then none
    else some { r with place := .widthDigits n, mark := { r.mark with width := some (.written n) } }
  | none => r.readPoint c

def readWidth : Option TemplateReader :=
  if c == '*' then some { r with place := .width, mark := { r.mark with width := some .argument } }
  else r.readWidthDigit c 0

def readFlag : Option TemplateReader :=
  let r := { r with place := .flags }
  match c with
  | '#' => some { r with mark := { r.mark with alternate := true } }
  | '0' => some { r with mark := { r.mark with zeros := true } }
  | '-' => some { r with mark := { r.mark with left := true } }
  | ' ' => some { r with mark := { r.mark with blank := true } }
  | '+' => some { r with mark := { r.mark with plus := true } }
  | c => r.readWidth c

/-- Reads a character of a key, whose parentheses have to close. -/
def readKey (depth : Nat) (read : List Char) : TemplateReader :=
  match c, depth with
  | ')', 0 => { r with place := .flags, mark := { r.mark with key := String.ofList read.reverse } }
  | ')', depth + 1 => { r with place := .key depth (')' :: read) }
  | '(', depth => { r with place := .key (depth + 1) ('(' :: read) }
  | c, depth => { r with place := .key depth (c :: read) }

/-- Reads a character; two percent signs stand for one. -/
def step : Option TemplateReader :=
  match r.place with
  | .outside =>
    if c == '%' then some { r with place := .percent }
    else some { r with parts := .char c :: r.parts }
  | .percent =>
    if c == '%' then some ⟨.outside, {}, .char '%' :: r.parts⟩
    else if c == '(' then some { r with place := .key 0 [] }
    else r.readFlag c
  | .key depth read => some (r.readKey c depth read)
  | .flags => r.readFlag c
  | .widthDigits n => r.readWidthDigit c n
  | .width => r.readPoint c
  | .point => r.readPlaces c
  | .placesDigits n => r.readPlacesDigit c n
  | .places => r.readSize c
  | .size => r.readKind c

/-- The parts of a template whose marks are complete. -/
def parts? (template : String) : Option (List Part) :=
  (template.toList.foldlM step initial).bind fun r =>
    match r.place with
    | .outside => some r.parts.reverse
    | _ => none

end TemplateReader

/-! ### Arguments written -/

/-- Fills a text up to a width, on the right if it stands on the left. -/
def Mark.fit (m : Mark) (width : Nat) (s : String) : String :=
  if m.left then Text.padRight width s else Text.padLeft width ' ' s

/-- A number by its sign, its prefix and its size, filled up to a width.  Zeros stand after the sign
and the prefix. -/
def Mark.fitNumber (m : Mark) (width : Nat) (negative : Bool) (base size : String) : String :=
  let sign := if negative then "-" else if m.plus then "+" else if m.blank then " " else ""
  let front := sign ++ base
  if m.zeros && !m.left then front ++ Text.padLeft (width - front.length) '0' size
  else m.fit width (front ++ size)

/-- The whole number of an argument: a number without its fraction, or a truth value as a number. -/
def wholeOf? : Value → Option Int
  | .int n => some n
  | .bool b => some (if b then 1 else 0)
  | .float x => x.truncate?
  | .decimal d => d.truncate?
  | _ => none

/-- Whether a whole number has few enough digits to be written in base ten. -/
def isWritable (n : Int) : Bool :=
  (Text.natText n.natAbs).length ≤ digitLimit

/-- The floating point number of an argument. -/
def floatOf? : Value → Option Double
  | .int n => Double.ofInt? n
  | .bool b => Double.ofInt? (if b then 1 else 0)
  | .float x => some x
  | .decimal d => d.toDouble?
  | _ => none

/-- An argument that is a whole number or a truth value. -/
def exactOf? : Value → Option Int
  | .int n => some n
  | .bool b => some (if b then 1 else 0)
  | _ => none

/-- The character of an argument: a text of one character, or the character with a number. -/
def charOf? : Value → Option Char
  | .text s =>
    match s.toList with
    | [c] => some c
    | _ => none
  | v => do
    let n ← exactOf? v
    if 0 ≤ n && n.toNat.isValidChar then some (Char.ofNat n.toNat) else none

/-- A text with escapes for the characters that are not of ASCII. -/
def asciiText (s : String) : String :=
  String.join (s.toList.map fun c =>
    if c.toNat < 0x80 then String.singleton c
    else if c.toNat < 0x100 then "\\x" ++ Text.hexText 2 c.toNat
    else if c.toNat < 0x10000 then "\\u" ++ Text.hexText 4 c.toNat
    else "\\U" ++ Text.hexText 8 c.toNat)

/-- A text in capitals if asked for; numbers are written in ASCII. -/
def capitals (upper : Bool) (s : String) : String :=
  if upper then String.ofList (s.toList.map Char.toUpper) else s

namespace Mark

variable (m : Mark) (width : Nat) (places : Option Nat)

def writeText (s : String) : String :=
  m.fit width (match places with
    | some n => String.ofList (s.toList.take n)
    | none => s)

/-- A whole number in a base, with as many digits as there are places at least. -/
def writeWhole (base : Nat) (sign : String) (upper : Bool) (n : Int) : String :=
  let digits := String.ofList (Nat.toDigits base n.natAbs)
  m.fitNumber width (n < 0) (capitals upper (if m.alternate then sign else ""))
    (capitals upper (Text.padLeft (places.getD 0) '0' digits))

def writeFloat (upper : Bool) (size : Bool → Nat → Double → String) (x : Double) : String :=
  m.fitNumber width x.sign "" (capitals upper (size m.alternate (places.getD 6) x))

/-- Writes an argument, if it is one that the kind can write. -/
def write? (kind : Kind) (v : Value) : Option String :=
  match kind with
  | .display => some (m.writeText width places v.display)
  | .shown => some (m.writeText width places v.shown)
  | .ascii => some (m.writeText width places (asciiText v.shown))
  | .whole => ((wholeOf? v).filter isWritable).map (m.writeWhole width places 10 "" false)
  | .octal => (exactOf? v).map (m.writeWhole width places 8 "0o" false)
  | .hex upper => (exactOf? v).map (m.writeWhole width places 16 "0x" upper)
  | .fixed upper => (floatOf? v).map (m.writeFloat width places upper Double.fixedSize)
  | .scientific upper => (floatOf? v).map (m.writeFloat width places upper Double.scientificSize)
  | .general upper => (floatOf? v).map (m.writeFloat width places upper Double.generalSize)
  | .char => (charOf? v).map fun c => m.fit width (String.singleton c)

end Mark

/-! ### Templates filled -/

/-- The number of an extent and the arguments that are left; an argument that gives it is a whole
number whose size is limited. -/
def Extent.read? (limit : Nat) : Option Extent → List Value → Option (Option Int × List Value)
  | none, args => some (none, args)
  | some (.written n), args => some (some n, args)
  | some .argument, v :: args => do
    let n ← exactOf? v
    if -limit - 1 ≤ n && n ≤ limit then some (some n, args) else none
  | some .argument, [] => none

/-- Fills a template from left to right.  A mark with a key takes a field of the object, and what
follows has that field only for its arguments.  Arguments may be left over if they come from an
object. -/
def fillParts (object : Option (List (String × Value))) : List Part → List Value → Option String
  | [], args => if args.isEmpty || object.isSome then some "" else none
  | .char c :: rest, args => (fillParts object rest args).map (String.singleton c ++ ·)
  | .mark m kind :: rest, args => do
    let args ← match m.key with
      | none => some args
      | some key => (object.bind (Value.field? key)).map ([·])
    let (width, args) ← Extent.read? TemplateReader.widthLimit m.width args
    let (places, args) ← Extent.read? TemplateReader.placesLimit m.places args
    let v :: args := args | none
    -- A width below zero asks for the left side.
    let m := if width.any (· < 0) then { m with left := true } else m
    let written ← m.write? (width.getD 0).natAbs (places.map Int.toNat) kind v
    let filled ← fillParts object rest args
    some (written ++ filled)

/-- Fills a template with arguments, or with the fields of an object. -/
def fill? (template : String) (args : List Value) : Option String :=
  (TemplateReader.parts? template).bind fun parts =>
    match args with
    | [.object (f :: fields)] => fillParts (some (f :: fields)) parts args
    | args => fillParts none parts args

end SplitTest.Log

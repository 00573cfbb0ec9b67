import SplitTest.Value

/-! Values as JSON.  `Value.render` writes a value in ASCII, everything else escaped, on one line or
indented.  `Value.parse?` reads a document: whole numbers and numbers with a fraction or an exponent
are different values, the names of the infinities and of not-a-number are accepted, and of fields
with the same key the last value counts. -/

namespace SplitTest.Value

open Text

/-- A UTF-16 unit as an escape. -/
def unitEscape (n : Nat) : String :=
  "\\u" ++ hexText 4 n

/-- A character inside a JSON text. -/
def jsonChar (c : Char) : String :=
  if c == '"' then "\\\""
  else if c == '\\' then "\\\\"
  else if c == '\n' then "\\n"
  else if c == '\r' then "\\r"
  else if c == '\t' then "\\t"
  else if c.toNat = 8 then "\\b"
  else if c.toNat = 12 then "\\f"
  else if 32 ≤ c.toNat && c.toNat < 127 then String.singleton c
  else if c.toNat < 0x10000 then unitEscape c.toNat
  else
    let n := c.toNat - 0x10000
    unitEscape (0xd800 + n / 0x400) ++ unitEscape (0xdc00 + n % 0x400)

/-- A text between double quotes. -/
def jsonText (s : String) : String :=
  "\"" ++ String.join (s.toList.map jsonChar) ++ "\""

/-- A floating point number in JSON. -/
def jsonDouble : Double → String
  | .nan => "NaN"
  | .infinity s => if s then "-Infinity" else "Infinity"
  | x => x.text

/-- A value without parts in JSON. -/
def jsonAtom : Value → String
  | null => "null"
  | bool b => if b then "true" else "false"
  | int n => toString n
  | float x => jsonDouble x
  | text s => jsonText s
  | v => jsonText v.display

/-- How the parts of a list or an object are set apart. -/
inductive Layout
  /-- On one line, a space after each comma. -/
  | line
  /-- One part a line, indented by `width` spaces a level. -/
  | indented (width : Nat)

/-- The text between an opening bracket at nesting level `depth` and the first part. -/
def Layout.open (depth : Nat) : Layout → String
  | line => ""
  | indented width => "\n" ++ String.ofList (List.replicate (width * (depth + 1)) ' ')

/-- The text between two parts. -/
def Layout.between (depth : Nat) : Layout → String
  | line => ", "
  | indented width => ",\n" ++ String.ofList (List.replicate (width * (depth + 1)) ' ')

/-- The text between the last part and the closing bracket. -/
def Layout.close (depth : Nat) : Layout → String
  | line => ""
  | indented width => "\n" ++ String.ofList (List.replicate (width * depth) ' ')

mutual

/-- A value in JSON at a nesting level. -/
def renderAt (layout : Layout) (depth : Nat) : Value → String
  | list items =>
    if items.isEmpty then "[]"
    else "[" ++ layout.open depth ++
      (layout.between depth).intercalate (renderItems layout (depth + 1) items) ++
      layout.close depth ++ "]"
  | object fields =>
    if fields.isEmpty then "\x7b\x7d"
    else "\x7b" ++ layout.open depth ++
      (layout.between depth).intercalate (renderFields layout (depth + 1) fields) ++
      layout.close depth ++ "\x7d"
  | v => jsonAtom v

def renderItems (layout : Layout) (depth : Nat) : List Value → List String
  | [] => []
  | v :: rest => renderAt layout depth v :: renderItems layout depth rest

/-- The fields of an object in JSON. -/
def renderFields (layout : Layout) (depth : Nat) : List (String × Value) → List String
  | [] => []
  | (key, v) :: rest =>
    (jsonText key ++ ": " ++ renderAt layout depth v) :: renderFields layout depth rest

end

/-- A value in JSON. -/
def render (layout : Layout) (v : Value) : String :=
  renderAt layout 0 v

/-- Drops the blanks that JSON allows between tokens. -/
def skipBlanks (cs : List Char) : List Char :=
  cs.dropWhile fun c => c == ' ' || c == '\t' || c == '\n' || c == '\r'

/-- The value of a digit in base sixteen. -/
def hexDigit? (c : Char) : Option Nat :=
  if '0' ≤ c && c ≤ '9' then some (c.toNat - 48)
  else if 'a' ≤ c && c ≤ 'f' then some (c.toNat - 87)
  else if 'A' ≤ c && c ≤ 'F' then some (c.toNat - 55)
  else none

/-- Reads four digits in base sixteen. -/
def hexUnit? : List Char → Option (Nat × List Char)
  | a :: b :: c :: d :: rest => do
    let a ← hexDigit? a
    let b ← hexDigit? b
    let c ← hexDigit? c
    let d ← hexDigit? d
    some (((a * 16 + b) * 16 + c) * 16 + d, rest)
  | _ => none

def shortEscape? (c : Char) : Option Char :=
  match c with
  | '"' => some '"'
  | '\\' => some '\\'
  | '/' => some '/'
  | 'b' => some (Char.ofNat 8)
  | 'f' => some (Char.ofNat 12)
  | 'n' => some '\n'
  | 'r' => some '\r'
  | 't' => some '\t'
  | _ => none

/-- Reads the rest of a text after its opening quote.  `fuel` bounds the number of characters. -/
def readText : (fuel : Nat) → List Char → List Char → Option (String × List Char)
  | 0, _, _ => none
  | _ + 1, _, [] => none
  | _ + 1, acc, '"' :: rest => some (String.ofList acc.reverse, rest)
  | fuel + 1, acc, '\\' :: 'u' :: rest =>
    match hexUnit? rest with
    | none => none
    | some (n, rest) =>
      if 0xd800 ≤ n && n < 0xdc00 then
        match rest with
        | '\\' :: 'u' :: low =>
          match hexUnit? low with
          | some (m, low) =>
            if 0xdc00 ≤ m && m < 0xe000 then
              readText fuel (Char.ofNat (0x10000 + (n - 0xd800) * 0x400 + (m - 0xdc00)) :: acc) low
            else readText fuel (Char.ofNat 0xfffd :: acc) rest
          | none => none
        | _ => readText fuel (Char.ofNat 0xfffd :: acc) rest
      else if 0xdc00 ≤ n && n < 0xe000 then readText fuel (Char.ofNat 0xfffd :: acc) rest
      else readText fuel (Char.ofNat n :: acc) rest
  | fuel + 1, acc, '\\' :: c :: rest => (shortEscape? c).bind fun d => readText fuel (d :: acc) rest
  | fuel + 1, acc, c :: rest => if c.toNat < 32 then none else readText fuel (c :: acc) rest

def isNumberDigit (c : Char) : Bool :=
  (asciiDigit? c).isSome

/-- Splits off the digits at the start. -/
def splitRun (cs : List Char) : List Char × List Char :=
  (cs.takeWhile isNumberDigit, cs.dropWhile isNumberDigit)

/-- Splits off a minus sign. -/
def splitMinus : List Char → List Char × List Char
  | '-' :: rest => (['-'], rest)
  | cs => ([], cs)

/-- Splits off the digits before the point.  Nothing follows a zero at the start. -/
def splitWhole : List Char → List Char × List Char
  | '0' :: rest => (['0'], rest)
  | cs => splitRun cs

/-- Splits off a point and the digits after it. -/
def splitFraction : List Char → List Char × List Char
  | '.' :: rest =>
    match splitRun rest with
    | ([], _) => ([], '.' :: rest)
    | (ds, rest) => ('.' :: ds, rest)
  | cs => ([], cs)

def splitExponentSign : List Char → List Char × List Char
  | '+' :: rest => (['+'], rest)
  | '-' :: rest => (['-'], rest)
  | cs => ([], cs)

def splitExponent : List Char → List Char × List Char
  | [] => ([], [])
  | c :: rest =>
    if c == 'e' || c == 'E' then
      let (sign, digits) := splitExponentSign rest
      match splitRun digits with
      | ([], _) => ([], c :: rest)
      | (ds, rest) => (c :: sign ++ ds, rest)
    else ([], c :: rest)

/-- Splits off the characters of a number. -/
def splitNumber (cs : List Char) : List Char × List Char :=
  let (sign, cs) := splitMinus cs
  let (whole, cs) := splitWhole cs
  let (fraction, cs) := splitFraction cs
  let (exponent, cs) := splitExponent cs
  if whole.isEmpty then ([], cs) else (sign ++ whole ++ fraction ++ exponent, cs)

/-- The number that a number's characters denote. -/
def ofNumberChars (cs : List Char) : Option Value :=
  if cs.any fun c => c == '.' || c == 'e' || c == 'E' then
    (Double.ofNumeral? cs).map float
  else
    let (negative, rest) := Numeral.splitSign cs
    let n : Int := ofDigits (Numeral.splitDigits rest).1
    some (int (if negative then -n else n))

/-- The names of the values that have one. -/
def names : List (List Char × Value) :=
  [("null".toList, null), ("true".toList, bool true), ("false".toList, bool false),
    ("NaN".toList, float .nan), ("Infinity".toList, float (.infinity false)),
    ("-Infinity".toList, float (.infinity true))]

/-- Reads a named value. -/
def readName (cs : List Char) : Option (Value × List Char) :=
  (names.find? fun n => n.1.isPrefixOf cs).map fun n => (n.2, cs.drop n.1.length)

mutual

/-- Reads one value.  `fuel` bounds the number of steps. -/
def readValue : (fuel : Nat) → List Char → Option (Value × List Char)
  | 0, _ => none
  | fuel + 1, cs =>
    match cs with
    | '"' :: rest => (readText (rest.length + 1) [] rest).map fun (s, rest) => (text s, rest)
    | '[' :: rest =>
      match skipBlanks rest with
      | ']' :: rest => some (list [], rest)
      | rest => readItems fuel [] rest
    | '\x7b' :: rest =>
      match skipBlanks rest with
      | '\x7d' :: rest => some (object [], rest)
      | rest => readFields fuel [] rest
    | cs =>
      match readName cs with
      | some r => some r
      | none =>
        match splitNumber cs with
        | ([], _) => none
        | (n, rest) => (ofNumberChars n).map (·, rest)

/-- Reads the items of a list up to its closing bracket. -/
def readItems : (fuel : Nat) → List Value → List Char → Option (Value × List Char)
  | 0, _, _ => none
  | fuel + 1, acc, cs =>
    match readValue fuel (skipBlanks cs) with
    | none => none
    | some (v, rest) =>
      match skipBlanks rest with
      | ',' :: rest => readItems fuel (v :: acc) rest
      | ']' :: rest => some (list (v :: acc).reverse, rest)
      | _ => none

/-- Reads the fields of an object up to its closing brace. -/
def readFields : (fuel : Nat) → List (String × Value) → List Char → Option (Value × List Char)
  | 0, _, _ => none
  | fuel + 1, acc, cs =>
    match skipBlanks cs with
    | '"' :: rest =>
      match readText (rest.length + 1) [] rest with
      | none => none
      | some (key, rest) =>
        match skipBlanks rest with
        | ':' :: rest =>
          match readValue fuel (skipBlanks rest) with
          | none => none
          | some (v, rest) =>
            match skipBlanks rest with
            | ',' :: rest => readFields fuel ((key, v) :: acc) rest
            | '\x7d' :: rest => some (object (dedupe ((key, v) :: acc).reverse), rest)
            | _ => none
        | _ => none
    | _ => none

end

/-- Reads a document. -/
def parse? (s : String) : Option Value :=
  match readValue (s.length + 1) (skipBlanks s.toList) with
  | some (v, rest) => if (skipBlanks rest).isEmpty then some v else none
  | none => none

end SplitTest.Value

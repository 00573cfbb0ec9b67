import SplitTest.Layout.Keyword
import SplitTest.Text.Blank
import SplitTest.Text.Digit
import SplitTest.Text.Word

/-! Cutting an SQL text into tokens.  A rule looks at the rest of the text and at the character
before it, and gives the kind and the length of the token that starts there.  The rules stand in
order of precedence, and the first that applies makes the token; a character to which none applies
is a token by itself. -/

namespace SplitTest.Layout

/-- What a rule finds at the start of the rest of a text. -/
abbrev Found := Option (Kind × Nat)

namespace Lexeme

/-- Letters with which a name may start: the Latin letters of ASCII, those of the first supplement
up to `Ü` in either case, and the letters whose other case is one of these. -/
def isLetter (c : Char) : Bool :=
  let n := c.toNat
  c.isAlpha || (0xc0 ≤ n && n ≤ 0xdc) || (0xe0 ≤ n && n ≤ 0xfc && n != 0xf7) ||
    [0x130, 0x131, 0x17f, 0x212a, 0x212b].contains n

/-- A letter or the underscore. -/
def isNameStart (c : Char) : Bool :=
  c == '_' || isLetter c

/-- The capital that reserved words are compared by. -/
def capital (c : Char) : Char :=
  if c.toNat = 0x130 then 'I' else if c.toNat = 0x212a then 'K' else Text.upperChar c

/-- Whether the character before the text is a word character. -/
def afterWord (before : Option Char) : Bool :=
  before.any Text.isWord

/-- The length of the longest run of `p` at the start. -/
def run (p : Char → Bool) (cs : List Char) : Nat :=
  (cs.takeWhile p).length

/-- A word ends where no word character follows. -/
def wordEnds (cs : List Char) : Bool :=
  !cs.head?.any Text.isWord

/-- The length of a fixed text at the start, in whatever case. -/
def fixed (part : String) (cs : List Char) : Option Nat :=
  if (cs.take part.length).map capital == part.toList.map capital then some part.length else none

/-- The length up to and with a line break, or to the end of the text. -/
def lineLength : List Char → Nat
  | [] => 0
  | '\r' :: '\n' :: _ => 2
  | c :: rest => if c == '\r' || c == '\n' then 1 else lineLength rest + 1

/-- The length up to and with the first occurrence of a text, in whatever case. -/
def lengthThrough (part : List Char) : List Char → Option Nat
  | [] => none
  | c :: rest =>
    if ((c :: rest).take part.length).map capital == part.map capital then some part.length
    else (lengthThrough part rest).map (· + 1)

/-- The length up to and with the closing quote.  A doubled quote is part of the text, and so is a
quote after a backslash where `escapes` says so, unless the text would not be closed then. -/
def quotedLength (quote : Char) (escapes : Bool) : List Char → Option Nat
  | [] => none
  | [c] => if c == quote then some 1 else none
  | c :: d :: rest =>
    if c == quote then
      if d == quote then ((quotedLength quote escapes rest).map (· + 2)) <|> some 1 else some 1
    else if escapes && c == '\\' && d == quote then
      ((quotedLength quote escapes rest).map (· + 2)) <|>
        ((quotedLength quote escapes (d :: rest)).map (· + 1))
    else (quotedLength quote escapes (d :: rest)).map (· + 1)

/-- A text between quotes. -/
def quoted (quote : Char) (escapes : Bool) (kind : Kind) : List Char → Found
  | [] => none
  | c :: rest =>
    if c == quote then (quotedLength quote escapes rest).map fun n => (kind, n + 1) else none

/-- Line comments start with two hyphens, or with a hash sign and a space. -/
def lineComment (cs : List Char) : Found :=
  match cs with
  | '-' :: '-' :: rest => comment rest
  | '#' :: ' ' :: rest => comment rest
  | _ => none
where
  comment (rest : List Char) : Found :=
    some (if rest.head? == some '+' then .otherComment else .lineComment, lineLength rest + 2)

/-- Comments between marks. -/
def blockComment : List Char → Found
  | '/' :: '*' :: rest => (lengthThrough ['*', '/'] rest).map fun n => (.otherComment, n + 2)
  | _ => none

/-- Line breaks, and blanks one by one. -/
def blank : List Char → Found
  | '\r' :: '\n' :: _ => some (.lineBreak, 2)
  | c :: _ =>
    if c == '\r' || c == '\n' then some (.lineBreak, 1)
    else if Text.isBlank c then some (.blank, 1)
    else none
  | [] => none

/-- The assignment sign, the cast sign and the star. -/
def sign : List Char → Found
  | ':' :: '=' :: _ => some (.assignment, 2)
  | ':' :: ':' :: _ => some (.punctuation, 2)
  | '*' :: _ => some (.wildcard, 1)
  | _ => none

/-- A text between two equal dollar tags. -/
def dollarText (before : Option Char) : List Char → Found
  | '$' :: rest =>
    if before.any fun c => Text.isWord c || c == '"' || c == '$' then none
    else
      let n := if rest.head?.any isNameStart then 1 + run Text.isWord (rest.drop 1) else 0
      if rest[n]? == some '$' then
        (lengthThrough ('$' :: rest.take (n + 1)) (rest.drop (n + 1))).map fun m =>
          (.dollarText, n + 2 + m)
      else none
  | _ => none

/-- Parameters. -/
def placeholder (before : Option Char) : List Char → Found
  | '?' :: _ => some (.placeholder, 1)
  | '%' :: '(' :: rest =>
    let n := run Text.isWord rest
    if n != 0 && rest[n]? == some ')' && rest[n + 1]?.any (fun c => capital c == 'S') then
      some (.placeholder, n + 4)
    else none
  | '%' :: c :: _ => if capital c == 'S' then some (.placeholder, 2) else none
  | c :: rest =>
    let n := run Text.isWord rest
    if (c == '$' || c == ':') && !afterWord before && n != 0 then some (.placeholder, n + 1)
    else none
  | [] => none

/-- Commands of a client program. -/
def command : List Char → Found
  | '\\' :: rest =>
    let n := run Text.isWord rest
    if n != 0 then some (.command, n + 1) else none
  | _ => none

/-- The length of words in whatever case, with blanks between them, where the last word ends. -/
def wordsLength : List String → List Char → Option Nat
  | [], _ => none
  | [w], cs => (fixed w cs).filter fun n => wordEnds (cs.drop n)
  | w :: ws, cs =>
    (fixed w cs).bind fun n =>
      let k := run Text.isBlank (cs.drop n)
      if k == 0 then none else (wordsLength ws (cs.drop (n + k))).map (n + k + ·)

/-- The first of several phrases. -/
def anyPhrase (kind : Kind) (phrases : List (List String)) (cs : List Char) : Found :=
  (phrases.findSome? fun ws => wordsLength ws cs).map fun n => (kind, n)

/-- Words that are reserved even where a name could stand. -/
def strictWord : List Char → Found :=
  anyPhrase .keyword [["CASE"], ["IN"], ["VALUES"], ["USING"], ["FROM"], ["AS"]]

/-- Names that start with at signs or hash signs. -/
def markedName (cs : List Char) : Found :=
  let n := if cs.head? == some '@' then 1 else min 2 (run (· == '#') cs)
  match cs.drop n with
  | c :: rest =>
    let k := run Text.isWord rest
    if n != 0 && isLetter c && k != 0 then some (.name, n + 1 + k) else none
  | [] => none

/-- Names known by what stands beside them: a point before or after, or a bracket after. -/
def placedName (before : Option Char) : List Char → Found
  | [] => none
  | c :: rest =>
    let n := 1 + run Text.isWord rest
    let after := (c :: rest).drop n
    if isLetter c && ((after.dropWhile Text.isBlank).head? == some '.' || before == some '.' ||
        after.head? == some '(') then some (.name, n)
    else none

/-- A number in base sixteen, without its sign. -/
def hexadecimal : List Char → Found
  | '0' :: x :: rest =>
    let n := run (fun c => Text.isDigit c || ('A' ≤ capital c && capital c ≤ 'F')) rest
    if capital x == 'X' && n != 0 then some (.hexadecimal, n + 2) else none
  | _ => none

/-- A number with an exponent, without its sign. -/
def scientific (cs : List Char) : Found :=
  let whole := run Text.isDigit cs
  let fraction :=
    match cs.drop whole with
    | '.' :: rest => if run Text.isDigit rest == 0 then 0 else run Text.isDigit rest + 1
    | _ => 0
  match cs.drop (whole + fraction) with
  | e :: rest =>
    let minus := if rest.head? == some '-' then 1 else 0
    let digits := run Text.isDigit (rest.drop minus)
    if whole != 0 && capital e == 'E' && digits != 0 then
      some (.float, whole + fraction + 1 + minus + digits)
    else none
  | [] => none

/-- The length of a run of digits that no name follows.  Before a name the last digit is left to
the name; at least `least` digits remain. -/
def digitsLength (least : Nat) (cs : List Char) : Option Nat :=
  let n := run Text.isDigit cs
  if (cs.drop n).head?.any isNameStart then if least < n then some (n - 1) else none
  else if least ≤ n then some n
  else none

/-- A number with a point, without its sign. -/
def fractional (cs : List Char) : Found :=
  let whole := run Text.isDigit cs
  match cs.drop whole with
  | '.' :: rest =>
    (digitsLength (if whole == 0 then 1 else 0) rest).map fun n => (.float, whole + 1 + n)
  | _ => none

/-- Numbers, each with a sign that may stand before it. -/
def number (cs : List Char) : Found :=
  let minus := if cs.head? == some '-' then 1 else 0
  let digits := cs.drop minus
  let found : Found :=
    hexadecimal digits <|> scientific digits <|> fractional digits <|>
      (digitsLength 1 digits).map fun n => (.integer, n)
  found.map fun f => (f.1, f.2 + minus)

/-- A name in square brackets, where no index can stand. -/
def bracketed (before : Option Char) : List Char → Found
  | '[' :: rest =>
    let n := run (fun c => c != '[' && c != ']') rest
    if before.any (fun c => Text.isWord c || c == ']' || c == ')') then none
    else if n != 0 && rest[n]? == some ']' then some (.name, n + 2)
    else none
  | _ => none

/-- The words that may stand before `JOIN`. -/
def joins : List (List String) :=
  ([["LEFT"], ["RIGHT"], ["FULL"], []].flatMap fun side =>
    [["INNER"], ["OUTER"], ["STRAIGHT"], []].map fun how => side ++ how ++ ["JOIN"]) ++
    [["CROSS", "JOIN"], ["NATURAL", "JOIN"]]

/-- The word `GO` with a count. -/
def repeatedGo (cs : List Char) : Found :=
  (fixed "GO" cs).bind fun n =>
    match cs.drop n with
    | c :: rest =>
      let k := run Text.isDigit rest
      if Text.isBlank c && k != 0 && wordEnds (rest.drop k) then some (.keyword, n + 1 + k)
      else none
    | [] => none

/-- A cast to a named time zone. -/
def zone (cs : List Char) : Found :=
  (fixed "AT" cs <|> fixed "WITH'" cs).bind fun n =>
    let k := run Text.isBlank (cs.drop n)
    let rest := cs.drop (n + k)
    (if k == 0 then none else wordsLength ["TIME", "ZONE"] rest).bind fun m =>
      let j := run Text.isBlank (rest.drop m)
      match rest.drop (m + j) with
      | '\'' :: text =>
        let t := run (· != '\'') text
        if j != 0 && t != 0 && text[t]? == some '\'' then some (.zone, n + k + m + j + t + 2)
        else none
      | _ => none

/-- Phrases of several reserved words. -/
def phrase (cs : List Char) : Found :=
  anyPhrase .keyword joins cs <|>
  anyPhrase .keyword [["END", "IF"], ["END", "LOOP"], ["END", "WHILE"], ["END"], ["NOT", "NULL"]]
    cs <|>
  anyPhrase .direction [["ASC", "NULLS", "FIRST"], ["ASC", "NULLS", "LAST"], ["ASC"],
    ["DESC", "NULLS", "FIRST"], ["DESC", "NULLS", "LAST"], ["DESC"]] cs <|>
  anyPhrase .keyword [["NULLS", "FIRST"], ["NULLS", "LAST"], ["UNION", "ALL"]] cs <|>
  anyPhrase .tableStatement [["CREATE", "OR", "REPLACE"], ["CREATE"]] cs <|>
  anyPhrase .builtin [["DOUBLE", "PRECISION"]] cs <|>
  anyPhrase .keyword [["GROUP", "BY"], ["ORDER", "BY"], ["PRIMARY", "KEY"], ["HANDLER", "FOR"]]
    cs <|>
  repeatedGo cs <|>
  anyPhrase .keyword (["EXPLODE", "INLINE", "PARSE_URL_TUPLE", "POSEXPLODE", "STACK"].map
    fun w => ["LATERAL", "VIEW", w]) cs <|>
  zone cs <|>
  anyPhrase .comparison (["LIKE", "ILIKE", "RLIKE", "REGEXP"].flatMap
    fun w => [["NOT", w], [w]]) cs

def singleWord : List Char → Found
  | [] => none
  | c :: rest =>
    if Text.isWord c then
      let n := 1 + run (fun d => Text.isWord d || d == '$' || d == '#') rest
      some (wordKind (String.ofList ((c :: rest).take n)), n)
    else none

/-- Operators of several characters that single operator characters would cut apart. -/
def arrows : List String :=
  ["->>", "->", "#>>", "#>", "@>", "<@", "-", "#-"]

/-- Punctuation marks and operators. -/
def mark (cs : List Char) : Found :=
  match cs with
  | [] => none
  | c :: _ =>
    if ";:()[],.".toList.contains c then some (.punctuation, 1)
    else
      let equal := run ("<>=~!".toList.contains ·) cs
      let other := run ("+/@#%^&|-".toList.contains ·) cs
      (arrows.findSome? fun a => (fixed a cs).map fun n => (.operator, n)) <|>
        (if equal != 0 then some (.comparison, equal) else none) <|>
        (if other != 0 then some (.operator, other) else none)

/-- The token at the start of the rest of a text, by the first rule that applies. -/
def first (before : Option Char) (cs : List Char) : Kind × Nat :=
  (lineComment cs <|> blockComment cs <|> blank cs <|> sign cs <|>
    quoted '`' false .name cs <|> quoted '´' false .name cs <|>
    dollarText before cs <|> placeholder before cs <|> command cs <|> strictWord cs <|>
    markedName cs <|> placedName before cs <|> number cs <|>
    quoted '\'' true .text cs <|> quoted '"' true .symbol cs <|> bracketed before cs <|>
    phrase cs <|> singleWord cs <|> mark cs).getD (.stray, 1)

/-- The tokens of the rest of a text.  A token has one character at least, so the rest gets
shorter. -/
def tokens (before : Option Char) (cs : List Char) : List Token :=
  match cs with
  | [] => []
  | c :: rest =>
    let f := first before (c :: rest)
    let text := c :: rest.take (f.2 - 1)
    ⟨f.1, String.ofList text⟩ :: tokens text.getLast? (rest.drop (f.2 - 1))
termination_by cs.length
decreasing_by
  rw [List.length_drop, List.length_cons]
  exact Nat.lt_succ_of_le (Nat.sub_le _ _)

end Lexeme

/-- The tokens of an SQL text. -/
def Token.ofText (s : String) : List Token :=
  Lexeme.tokens none s.toList

end SplitTest.Layout

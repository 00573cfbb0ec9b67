import SplitTest.Layout.Blank
import SplitTest.Layout.Construct
import SplitTest.Layout.Lines
import SplitTest.Layout.Statement

/-! The layout of an SQL text.  Each statement of the text is read into its tree, its blanks are
made single, it is broken into lines, and the lines lose the blanks at their ends.  Only blanks
outside of quotes and comments change. -/

namespace SplitTest.Layout

/-- The length of a quoted text after its opening quote.  A backslash keeps the next character from
closing it, unless that ends a line. -/
def quotedRest (quote : Char) : List Char → Option Nat
  | [] => none
  | '\\' :: c :: rest => if c == '\n' then none else (quotedRest quote rest).map (· + 2)
  | c :: rest =>
    if c == quote then some 1
    else if c == '\\' then none
    else (quotedRest quote rest).map (· + 1)

/-- A line without the blanks at its end, from its characters with the last first. -/
def trimmed (line : List Char) : List Char :=
  (line.dropWhile Text.isBlank).reverse

/-- The lines of a text without the blanks at their ends.  A line does not end inside quotes;
`quoted` characters of the last quoted text are still to come, and `line` holds the line so far,
last character first. -/
def trimLines (quoted : Nat) (line : List Char) : List Char → List (List Char)
  | [] => [trimmed line]
  | '\r' :: '\n' :: rest =>
    match quoted with
    | k + 2 => trimLines k ('\n' :: '\r' :: line) rest
    | _ => trimmed line :: trimLines 0 [] rest
  | c :: rest =>
    match quoted with
    | k + 1 => trimLines k (c :: line) rest
    | 0 =>
      if c == '\r' || c == '\n' then trimmed line :: trimLines 0 [] rest
      else if c == '\'' || c == '"' then
        trimLines ((quotedRest c rest).getD 0) (c :: line) rest
      else trimLines 0 (c :: line) rest

/-- A text with its lines trimmed. -/
def trimmedText (s : String) : String :=
  String.ofList (['\n'].intercalate (trimLines 0 [] s.toList))

/-- Statements in lines, with an empty line before each but the first.  `last` is the text of the
statement before; where it ends its line, one line break is there already. -/
def stack (last : Option String) : List Node → String
  | [] => ""
  | n :: rest =>
    let lines := n.lines
    let gap := match last with
      | none => ""
      | some before => if before.endsWith "\n" then "\n" else "\n\n"
    trimmedText (gap ++ lines) ++ stack (some (gap ++ lines)) rest

/-- The layout of an SQL text. -/
def ofText (s : String) : String :=
  stack none ((statements s).map fun tokens => Blank.tidy (Node.ofTokens tokens))

end SplitTest.Layout

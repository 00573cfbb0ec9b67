import SplitTest.Text.Case

/-! Tokens of an SQL text.  A token is a stretch of the text with its kind; the kinds tell apart
what the layout treats differently. -/

namespace SplitTest.Layout

/-- What a stretch of SQL text is. -/
inductive Kind
  /-- One blank that ends no line. -/
  | blank
  /-- A line break. -/
  | lineBreak
  /-- A comment to the end of the line, with the line break. -/
  | lineComment
  /-- A comment between marks, or a comment that holds a hint. -/
  | otherComment
  /-- The assignment sign. -/
  | assignment
  /-- The star. -/
  | wildcard
  /-- A name. -/
  | name
  /-- The name of a type. -/
  | builtin
  /-- A parameter of a prepared text. -/
  | placeholder
  /-- A literal between dollar tags. -/
  | dollarText
  /-- A command of a client program. -/
  | command
  /-- A reserved word without a kind of its own. -/
  | keyword
  /-- A reserved word that starts a statement on rows. -/
  | rowStatement
  /-- A reserved word that starts a statement on tables. -/
  | tableStatement
  /-- The word that starts a list of named queries. -/
  | withWord
  /-- A reserved word of access control. -/
  | accessWord
  /-- The direction of an ordering. -/
  | direction
  /-- A cast to a time zone. -/
  | zone
  | integer
  | float
  | hexadecimal
  /-- A literal in single quotes. -/
  | text
  /-- A name in double quotes. -/
  | symbol
  | punctuation
  | operator
  | comparison
  /-- A character that starts nothing. -/
  | stray
  deriving DecidableEq, Repr

namespace Kind

/-- Reserved words of any kind. -/
def isKeyword (k : Kind) : Bool :=
  k ∈ [keyword, rowStatement, tableStatement, withWord, accessWord, direction, zone]

/-- Blanks and line breaks. -/
def isBlank (k : Kind) : Bool :=
  k ∈ [blank, lineBreak]

/-- Comments of any kind. -/
def isComment (k : Kind) : Bool :=
  k ∈ [lineComment, otherComment]

/-- Numbers of any kind. -/
def isNumber (k : Kind) : Bool :=
  k ∈ [integer, float, hexadecimal]

/-- Names of any kind that are not in double quotes. -/
def isName (k : Kind) : Bool :=
  k ∈ [name, builtin, placeholder]

/-- The kinds that can stand on a side of an operator by themselves. -/
def isOperand (k : Kind) : Bool :=
  k ∈ [integer, float, text, symbol, name, placeholder]

end Kind

/-- A stretch of text with its kind. -/
structure Token where
  kind : Kind
  text : String
  deriving DecidableEq

namespace Token

/-- The token's word: reserved words in upper case, anything else as written. -/
def word (t : Token) : String :=
  if t.kind.isKeyword then Text.upper t.text else t.text

/-- Whether the token is a plain reserved word of a list. -/
def isKeyword (t : Token) (words : List String) : Bool :=
  t.kind == .keyword && words.contains t.word

/-- Whether the token is a given punctuation mark. -/
def isMark (t : Token) (mark : String) : Bool :=
  t.kind == .punctuation && t.text == mark

end Token

end SplitTest.Layout

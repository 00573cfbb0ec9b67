/-! SQL texts as sequences of labelled pieces.  A piece is code, a quoted literal given by the value
it denotes, or the text of a line comment.  `Sql.text` writes the pieces one after the other: a
literal between single quotes with each single quote inside it doubled, a comment after two
hyphens. -/

namespace SplitTest

namespace Literal

/-- The single quote that delimits a literal. -/
def quote : Char := Char.ofNat 39

/-- The characters of a literal's value, each quote doubled. -/
def double : List Char → List Char
  | [] => []
  | c :: rest => if c = quote then quote :: quote :: double rest else c :: double rest

/-- A literal that denotes a text. -/
def encode (s : String) : String :=
  String.ofList (quote :: double s.toList ++ [quote])

end Literal

/-- A piece of an SQL text. -/
inductive Piece
  /-- Code as it stands. -/
  | code (s : String)
  /-- A literal that denotes `s`. -/
  | literal (s : String)
  /-- A comment to the end of the line; the line break belongs to the code after it. -/
  | comment (s : String)
  deriving DecidableEq

/-- The text of a piece. -/
def Piece.text : Piece → String
  | code s => s
  | literal s => Literal.encode s
  | comment s => "-- " ++ s

/-- An SQL text by its pieces. -/
structure Sql where
  pieces : List Piece
  deriving DecidableEq

namespace Sql

/-- The written form. -/
def text (q : Sql) : String :=
  String.join (q.pieces.map Piece.text)

def code (s : String) : Sql := ⟨[.code s]⟩

def literal (s : String) : Sql := ⟨[.literal s]⟩

/-- A line comment. -/
def comment (s : String) : Sql := ⟨[.comment s]⟩

def empty : Sql := ⟨[]⟩

instance : Coe String Sql := ⟨code⟩

instance : Append Sql := ⟨fun a b => ⟨a.pieces ++ b.pieces⟩⟩

instance : Inhabited Sql := ⟨empty⟩

/-- The texts of a list one after the other. -/
def concat (parts : List Sql) : Sql :=
  ⟨parts.flatMap pieces⟩

/-- The texts of a list with a separator between them. -/
def join (separator : Sql) (parts : List Sql) : Sql :=
  concat (parts.intersperse separator)

end Sql

end SplitTest

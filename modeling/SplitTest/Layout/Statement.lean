import SplitTest.Layout.Lexeme

/-! Cutting the tokens of a text into statements.  A statement ends with a semicolon outside of
parentheses, blocks and bodies of routines, or with the word `GO`; blanks and comments on the same
line still belong to it.  The word `BEGIN` opens a block, but a transaction where a semicolon or the
word for a transaction follows. -/

namespace SplitTest.Layout

/-- What decides whether a semicolon ends the statement. -/
structure Nesting where
  /-- Whether the statement creates something. -/
  creates : Bool
  /-- Whether a choice inside a routine is open. -/
  inChoice : Bool
  /-- Whether nothing but blanks and comments came after the word that opened the last block. -/
  justBegun : Bool
  /-- How many blocks are open. -/
  blocks : Nat
  /-- How many levels are open. -/
  level : Int

namespace Nesting

/-- Outside of everything. -/
def outside : Nesting := ⟨false, false, false, 0, 0⟩

/-- Words that make a transaction of what would be a block. -/
def transactionWords : List String :=
  ["TRANSACTION", "WORK", "DEFERRED", "IMMEDIATE", "EXCLUSIVE"]

/-- The levels and blocks after a token. -/
def enter (n : Nesting) (t : Token) : Nesting :=
  let word := Text.upper t.text
  if t.isMark "(" then { n with level := n.level + 1 }
  else if t.isMark ")" then { n with level := n.level - 1 }
  else if !t.kind.isKeyword then n
  else if t.kind == .tableStatement && "CREATE".isPrefixOf word then { n with creates := true }
  else if word == "DECLARE" && n.creates && n.blocks == 0 then { n with level := n.level + 1 }
  else if word == "BEGIN" then
    { n with
      blocks := n.blocks + 1
      justBegun := true
      level := if n.creates then n.level + 1 else n.level }
  else if n.justBegun && t.kind == .keyword && transactionWords.contains word then
    { n with blocks := n.blocks - 1, justBegun := false }
  else if word == "END" then
    if n.inChoice then { n with inChoice := false, level := n.level - 1 }
    else { n with blocks := n.blocks - 1, level := n.level - 1 }
  else if ["IF", "FOR", "WHILE", "CASE"].contains word && n.creates && n.blocks != 0 then
    { n with inChoice := n.inChoice || word == "CASE", level := n.level + 1 }
  else if ["END IF", "END FOR", "END WHILE"].contains word then { n with level := n.level - 1 }
  else n

/-- The nesting after a token.  A semicolon right after the word that opens a block shows that it
opened none. -/
def after (n : Nesting) (t : Token) : Nesting :=
  let n := n.enter t
  if t.isMark ";" then
    { n with blocks := if n.justBegun then n.blocks - 1 else n.blocks, justBegun := false }
  else if t.kind.isBlank || t.kind.isComment || t.isKeyword ["BEGIN"] then n
  else { n with justBegun := false }

end Nesting

/-- Whether a token ends its statement, under the nesting after it. -/
def Token.endsStatement (t : Token) (n : Nesting) : Bool :=
  (t.isMark ";" && n.level ≤ 0 && n.blocks == 0) ||
    (t.kind == .keyword && t.text.toList.takeWhile (!Text.isBlank ·) == ['G', 'O'])

/-- Whether a token may follow the end of a statement inside it. -/
def Token.trails (t : Token) : Bool :=
  t.kind == .blank || t.kind == .lineComment

/-- The statements of the rest of a text, where `held` is the statement so far, last token first,
and `ended` says that its end has been passed.  Blanks alone make no last statement. -/
def splitStatements (held : List Token) (n : Nesting) (ended : Bool) :
    List Token → List (List Token)
  | [] => if held.all (·.kind.isBlank) then [] else [held.reverse]
  | t :: rest =>
    if ended && !t.trails then
      let n := Nesting.outside.after t
      held.reverse :: splitStatements [t] n (t.endsStatement n) rest
    else
      let n := n.after t
      splitStatements (t :: held) n (ended || t.endsStatement n) rest

def statements (s : String) : List (List Token) :=
  splitStatements [] .outside false (Token.ofText s)

end SplitTest.Layout

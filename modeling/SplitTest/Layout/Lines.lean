import SplitTest.Layout.Node
import SplitTest.Text.Replace

/-! Breaking a statement into lines.  A statement is written from left to right; each group decides
where its own lines break, from the margin it stands in and from the column that the text before it
has reached, and its children then do the same.  Breaks come before the clauses of a statement,
before the items of a list but the first, before the branches of a choice and before the rows of a
`VALUES` list. -/

namespace SplitTest.Layout

/-- The text written so far, last character first. -/
abbrev Written := List Char

namespace Written

def endsLine (c : Char) : Bool :=
  let n := c.toNat
  (10 ≤ n && n ≤ 13) || (28 ≤ n && n ≤ 30) || n == 0x85 || n == 0x2028 || n == 0x2029

/-- The length of the last line; a line break at the very end belongs to the line it ends. -/
def column (w : Written) : Nat :=
  let w := match w with
    | '\n' :: '\r' :: before => before
    | c :: before => if endsLine c then before else c :: before
    | [] => []
  (w.takeWhile (!endsLine ·)).length

/-- Writes a text. -/
def add (w : Written) (s : String) : Written :=
  s.toList.reverse ++ w

end Written

/-- Where a group stands. -/
structure Margin where
  /-- Columns by which its lines start further right, on top of the levels. -/
  offset : Int
  /-- Levels of two columns each. -/
  levels : Nat
  /-- Whether it is part of a call. -/
  inCall : Bool

namespace Margin

/-- The column at which lines start. -/
def start (m : Margin) : Int :=
  m.offset + 2 * m.levels

/-- A line break and the blanks before the next line. -/
def lineBreak (m : Margin) : String :=
  "\n" ++ String.ofList (List.replicate m.start.toNat ' ')

/-- The column of what comes next, counted from the margin. -/
def ahead (m : Margin) (w : Written) : Int :=
  w.column - m.start

/-- The margin further right. -/
def shift (m : Margin) (columns : Int) : Margin :=
  { m with offset := m.offset + columns }

/-- The margin some levels further in. -/
def deeper (m : Margin) (levels : Nat) : Margin :=
  { m with levels := m.levels + levels }

end Margin

/-- A node with the way it is written. -/
structure Item where
  node : Node
  write : Margin → Written → Written

namespace Item

/-- Blanks, written as they are. -/
def gap (s : String) : Item :=
  ⟨.leaf ⟨.blank, s⟩, fun _ w => w.add s⟩

def isBlank (i : Item) : Bool :=
  i.node.isBlank

/-- The items of a level one after the other. -/
def writeAll (items : List Item) (m : Margin) (w : Written) : Written :=
  items.foldl (fun w i => i.write m w) w

/-- The text of items as their nodes have it. -/
def text (items : List Item) : String :=
  String.join (items.map (·.node.text))

/-- Drops a blank at the end of what was passed, nearest first. -/
def dropBlank : List Item → List Item
  | [] => []
  | i :: before => if i.isBlank then before else i :: before

/-- Breaks the line before each word that starts a statement, but not at the start of the level. -/
def breakStatements (br : String) (done : List Item) : List Item → List Item
  | [] => done.reverse
  | i :: rest =>
    if i.node.startsStatement then
      let before := if done.isEmpty then [] else gap br :: dropBlank done
      breakStatements br (i :: before) rest
    else breakStatements br (i :: done) rest

/-- Words that start a clause when they occur in a reserved word. -/
def clauseWords : List String :=
  ["FROM", "AND", "OR", "GROUP BY", "ORDER BY", "UNION", "VALUES", "SET", "BETWEEN", "EXCEPT",
    "HAVING", "LIMIT"]

/-- Whether a reserved word starts a clause. -/
def startsClause (t : Token) : Bool :=
  t.kind == .keyword &&
    (clauseWords.any (fun c => Text.contains c t.word) || "JOIN".toList.isSuffixOf t.word.toList)

/-- Breaks the line before each word that starts a clause.  Between the two bounds of `BETWEEN`
there is no break; `bounds` counts the bounds still to come. -/
def breakClauses (br : String) (bounds : Nat) (done : List Item) : List Item → List Item
  | [] => done.reverse
  | i :: rest =>
    if !i.node.isLeaf startsClause then breakClauses br bounds (i :: done) rest
    else if i.node.isKeyword ["BETWEEN"] then breakClauses br (bounds + 1) (i :: done) rest
    else if bounds != 0 && i.node.isKeyword ["AND"] then
      breakClauses br (bounds - 1) (i :: done) rest
    else
      let broken := done.head?.any fun p =>
        (p.node.text.toList.getLast?).any fun c => c == '\n' || c == '\r'
      let before := dropBlank done
      breakClauses br 0 (i :: (if broken then before else gap br :: before)) rest

/-- The breaks of a level at its own margin. -/
def arrange (m : Margin) (statements : Bool) (items : List Item) : List Item :=
  breakClauses m.lineBreak 0 []
    (if statements then breakStatements m.lineBreak [] items else items)

/-- A level with the breaks at its own margin. -/
def plain (items : List Item) (m : Margin) (w : Written) : Written :=
  writeAll (arrange m true items) m w

/-- A restriction starts a line with its word; what it restricts stands one level further in.  It is
written as it is where its word belongs to a part of it. -/
def restriction (items : List Item) (m : Margin) (w : Written) : Written :=
  let before := items.takeWhile (!·.node.isKeyword ["WHERE"])
  let rest := items.drop before.length
  if rest.isEmpty then w.add (text items)
  else plain (before ++ gap m.lineBreak :: rest) (m.deeper 1) w

/-- The lines inside a parenthesis start after it; a parenthesis with a statement starts a line one
level further in.  It is written as it is where its mark belongs to a part of it. -/
def parenthesis (items : List Item) (m : Margin) (w : Written) : Written :=
  if !items.any (·.node.isMark "(") then w.add (text items)
  else
    let nested := items.any (·.node.startsStatement)
    let m := if nested then m.deeper 1 else m
    let items := if nested then gap m.lineBreak :: items else items
    let before := items.takeWhile (!·.node.isMark "(")
    let inside := m.shift (m.ahead (w.add (text before)) + 1)
    writeAll (arrange inside (!nested) items) inside w

/-- Puts a line break before each part of a list but the first.  A part still on the line is
`written` columns long together with its comma. -/
def breakParts (br : String) (offset : Int) (first : Bool) (written : Nat) :
    List Item → List Item
  | [] => []
  | i :: rest =>
    if i.isBlank || i.node.isMark "," then i :: breakParts br offset first written rest
    else if first then i :: breakParts br offset false written rest
    else
      let written := written + i.node.width + 1
      if (written : Int) > -offset then gap br :: i :: breakParts br offset false 0 rest
      else i :: breakParts br offset false written rest

/-- Puts a space after each comma that no blank follows. -/
def spaceCommas : List Item → List Item
  | [] => []
  | i :: rest =>
    if i.node.isMark "," && !rest.head?.any isBlank then i :: gap " " :: spaceCommas rest
    else i :: spaceCommas rest

/-- The parts of a list stand below one another, but on one line in a call. -/
def list (items : List Item) (m : Margin) (w : Written) : Written :=
  if m.inCall then plain (spaceCommas items) m w
  else
    let before := items.takeWhile fun i => i.isBlank || i.node.isMark ","
    let inside := m.shift (m.ahead (w.add (text before)))
    plain (breakParts inside.lineBreak inside.offset true 0 items) m w

/-- Whether an item starts a branch of a choice. -/
def startsBranch (i : Item) : Bool :=
  i.node.isKeyword ["WHEN", "ELSE"]

/-- Puts a line break before each branch of a choice but the first that is long enough. -/
def breakBranches (br : String) (offset : Int) (first : Bool) : List Item → List Item
  | [] => []
  | i :: rest =>
    if startsBranch i && !first then
      let branch := i :: rest.takeWhile fun j => !startsBranch j && !j.node.isKeyword ["END"]
      if offset + 1 + (text branch).length > 0 then
        gap br :: i :: breakBranches br offset false rest
      else i :: breakBranches br offset false rest
    else i :: breakBranches br offset (first && i.node.isKeyword ["CASE"]) rest

/-- Puts a line break before the word that closes a choice. -/
def breakEnd (br : String) (items : List Item) : List Item :=
  let before := items.takeWhile (!·.node.isKeyword ["END"])
  let rest := items.drop before.length
  if rest.isEmpty then items else before ++ gap br :: rest

/-- The branches of a choice stand below one another after its first word, and its last word below
the first. -/
def choice (items : List Item) (m : Margin) (w : Written) : Written :=
  let outer := m.shift (m.ahead w)
  let word := items.takeWhile (·.node.isKeyword ["CASE"])
  let inner := outer.shift (outer.ahead (w.add (text word)))
  let innermost := inner.shift 5
  let branches := breakBranches inner.lineBreak inner.offset true items
  writeAll (breakEnd outer.lineBreak (arrange innermost true branches)) innermost w

/-- Writes the rows of a `VALUES` list as they are, each below the one before.  After a row the line
break `waits` for its comma, and then it is `due` before what follows. -/
def writeRows (waits due : List String) (w : Written) : List Item → Written
  | [] => due.foldl Written.add w
  | i :: rest =>
    if i.isBlank then writeRows waits due (w.add i.node.text) rest
    else
      let w := due.foldl Written.add w
      let next := w.add i.node.text
      if i.node.hasShape [.parenthesis] then
        let br := "\n" ++ String.ofList (List.replicate w.column ' ')
        writeRows (waits ++ [br]) [] next rest
      else if i.node.isMark "," then writeRows [] waits next rest
      else writeRows waits [] next rest

/-- A group, by its shape. -/
def group : Shape → List Item → Margin → Written → Written
  | .restriction => restriction
  | .parenthesis => parenthesis
  | .items => list
  | .choice => choice
  | .rows => fun items m w => writeRows [] [] (w.add m.lineBreak) items
  | .call => fun items m => plain items { m with inCall := true }
  | _ => plain

end Item

namespace Node

mutual

/-- A node with the way it is written. -/
def item : Node → Item
  | leaf t => ⟨leaf t, fun _ w => w.add t.text⟩
  | group s w children => ⟨group s w children, Item.group s (items children)⟩

/-- The nodes of a list, each with the way it is written. -/
def items : List Node → List Item
  | [] => []
  | n :: rest => n.item :: items rest

end

/-- The statement in lines. -/
def lines (n : Node) : String :=
  String.ofList (n.item.write ⟨0, 0, false⟩ []).reverse

end Node

end SplitTest.Layout

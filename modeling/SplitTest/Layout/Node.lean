import SplitTest.Layout.Token

/-! The tree of an SQL statement.  A leaf is a token; a group holds the nodes of one construct,
blanks and comments included, so the leaves of a tree are the tokens of its text in their order. -/

namespace SplitTest.Layout

/-- The construct a group stands for. -/
inductive Shape
  | statement
  | comment
  | brackets
  | parenthesis
  | choice
  | conditional
  | loop
  | block
  | window
  | call
  | restriction
  /-- A name with what qualifies, casts, orders or renames it. -/
  | identifier
  | typedLiteral
  | operation
  | comparison
  | assignment
  | items
  | rows
  deriving DecidableEq, Repr

/-- A node of the tree. -/
inductive Node
  | leaf (token : Token)
  /-- A group, with the number of characters it was written with. -/
  | group (shape : Shape) (width : Nat) (children : List Node)

namespace Node

mutual

/-- The text of a node. -/
def text : Node → String
  | leaf t => t.text
  | group _ _ children => allText children

def allText : List Node → String
  | [] => ""
  | n :: rest => n.text ++ allText rest

end

/-- The number of characters a node was written with. -/
def width : Node → Nat
  | leaf t => t.text.length
  | group _ w _ => w

/-- A group of nodes. -/
def gather (shape : Shape) (children : List Node) : Node :=
  group shape ((children.map width).foldl (· + ·) 0) children

/-- Nodes joined to one: a group of the shape takes the others in, anything else becomes the first
of a new group. -/
def extend (shape : Shape) (first : Node) (others : List Node) : Node :=
  match first with
  | group s w children =>
    if s == shape then gather shape (children ++ others)
    else gather shape (group s w children :: others)
  | leaf t => gather shape (leaf t :: others)

/-- A group with more nodes at its end. -/
def absorb (n : Node) (others : List Node) : Node :=
  match n with
  | group s _ children => gather s (children ++ others)
  | leaf t => leaf t

def isGroup : Node → Bool
  | leaf _ => false
  | group _ _ _ => true

/-- Whether a node is a group of one of some shapes. -/
def hasShape (shapes : List Shape) : Node → Bool
  | leaf _ => false
  | group s _ _ => shapes.contains s

/-- Whether a node is a token with a property. -/
def isLeaf (p : Token → Bool) : Node → Bool
  | leaf t => p t
  | group _ _ _ => false

/-- Whether a node is a token of a kind with a property. -/
def hasKind (p : Kind → Bool) : Node → Bool :=
  isLeaf fun t => p t.kind

/-- Whether a node is a blank or a line break. -/
def isBlank : Node → Bool :=
  hasKind Kind.isBlank

/-- Whether a node is a plain reserved word of a list. -/
def isKeyword (words : List String) : Node → Bool :=
  isLeaf (·.isKeyword words)

/-- Whether a node is a given punctuation mark. -/
def isMark (mark : String) : Node → Bool :=
  isLeaf (·.isMark mark)

/-- Whether a node starts a statement on rows or on tables. -/
def startsStatement : Node → Bool :=
  hasKind fun k => k == .rowStatement || k == .tableStatement

mutual

/-- The tree with the children of every group grouped anew from the inside out by `f`, except inside
groups that `closed` names. -/
def regroup (closed : Shape → Bool) (f : Shape → List Node → List Node) : Node → Node
  | leaf t => leaf t
  | group s w cs => if closed s then group s w cs else group s w (f s (regroupAll closed f cs))

/-- The nodes of a list, each grouped anew. -/
def regroupAll (closed : Shape → Bool) (f : Shape → List Node → List Node) :
    List Node → List Node
  | [] => []
  | n :: rest => n.regroup closed f :: regroupAll closed f rest

end

end Node

end SplitTest.Layout

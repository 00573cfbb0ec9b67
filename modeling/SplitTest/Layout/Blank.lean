import SplitTest.Layout.Node

/-! Blanks of a statement before it is laid out: the blanks between two nodes become one space, and
there are none at the start of a group, inside the ends of a parenthesis and before a comma of a
list. -/

namespace SplitTest.Layout.Blank

/-- One space in place of the blanks between two nodes and nothing in place of those at the start.
`bare` says that the node is the first or follows a blank. -/
def single (bare : Bool) : List Node → List Node
  | [] => []
  | n :: rest =>
    if n.isBlank then .leaf ⟨.blank, if bare then "" else " "⟩ :: single true rest
    else n :: single false rest

/-- Drops the blank before each comma. -/
def beforeCommas : List Node → List Node
  | [] => []
  | [n] => [n]
  | n :: m :: rest =>
    if n.isBlank && m.isMark "," then beforeCommas (m :: rest) else n :: beforeCommas (m :: rest)

/-- Drops the blanks at the end. -/
def dropEnd (nodes : List Node) : List Node :=
  (nodes.reverse.dropWhile Node.isBlank).reverse

/-- Drops the blanks at the end of a group. -/
def dropEndInside : Node → Node
  | .leaf t => .leaf t
  | .group s w nodes => .group s w (dropEnd nodes)

/-- Drops the blanks inside a parenthesis, next to its ends. -/
def insideEnds : List Node → List Node
  | [] => []
  | first :: rest =>
    match rest.reverse with
    | [] => [first]
    | last :: inner =>
      let inner := inner.dropWhile Node.isBlank
      let inner := (match inner with
        | [] => []
        | n :: before => dropEndInside n :: before)
      first :: (inner.reverse.dropWhile Node.isBlank ++ [last])

/-- The nodes of one group. -/
def level (shape : Shape) (nodes : List Node) : List Node :=
  match shape with
  | .items => single true (beforeCommas nodes)
  | .parenthesis => single true (insideEnds nodes)
  | _ => single true nodes

/-- The tree of a statement with single blanks, and one less at its end. -/
def tidy (n : Node) : Node :=
  match n.regroup (fun _ => false) level with
  | .leaf t => .leaf t
  | .group s w nodes =>
    .group s w (if nodes.getLast?.any Node.isBlank then nodes.dropLast else nodes)

end SplitTest.Layout.Blank

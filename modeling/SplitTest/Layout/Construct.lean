import SplitTest.Layout.Join

/-! The constructs of a statement.  Each is found in the tree that the ones before it have made:
brackets first, then calls and restrictions, names, operations, comparisons, renamed parts and last
the lists. -/

namespace SplitTest.Layout.Construct

/-- Groups the comments that follow one another, with the line breaks between them, where something
else follows.  `held` holds the comments so far, nearest first. -/
def comments (held done : List Node) : List Node → List Node
  | [] => (held ++ done).reverse
  | n :: rest =>
    if n.hasKind Kind.isComment || (!held.isEmpty && n.hasKind (· == .lineBreak)) then
      comments (n :: held) done rest
    else if held.isEmpty then comments [] (n :: done) rest
    else comments [] (n :: Node.gather .comment held.reverse :: done) rest

/-- Groups what stands between an opening and a closing node, inside and outside of the groups made
before. -/
def enclosed (shape : Shape) (opens closes : Node → Bool) : Node → Node :=
  Node.regroup (· == shape) fun _ => Join.pairs shape opens closes [] []

/-- Everything that opens and closes. -/
def enclosures : List (Node → Node) :=
  [enclosed .brackets (Node.isMark "[") (Node.isMark "]"),
    enclosed .parenthesis (Node.isMark "(") (Node.isMark ")"),
    enclosed .choice (Node.isKeyword ["CASE"]) (Node.isKeyword ["END"]),
    enclosed .conditional (Node.isKeyword ["IF"]) (Node.isKeyword ["END IF"]),
    enclosed .loop (Node.isKeyword ["FOR", "FOREACH"]) (Node.isKeyword ["END LOOP"]),
    enclosed .block (Node.isKeyword ["BEGIN"]) (Node.isKeyword ["END"])]

/-- The window of a call. -/
def windows : Node → Node :=
  Node.regroup (· == .window) fun _ =>
    Join.right (Node.isKeyword ["OVER"])
      (fun _ n => n.hasShape [.parenthesis] || n.hasKind Kind.isName)
      (fun first others => Node.gather .window (first :: others)) none []

/-- Whether a level defines a table by its columns, where a name before a parenthesis is no call. -/
def definesColumns (nodes : List Node) : Bool :=
  let holds (word : String) := nodes.any fun n => Text.upper n.text == word
  holds "CREATE" && holds "TABLE" && !nodes.any (·.text == "AS")

/-- Calls: a name with a parenthesis, and its window. -/
def calls : Node → Node :=
  Node.regroup (· == .call) fun _ nodes =>
    if definesColumns nodes then nodes
    else
      Join.left (fun p n => p.hasShape [.call] && n.hasShape [.window]) (Node.extend .call) []
        (Join.right (Node.hasKind Kind.isName) (fun _ n => n.hasShape [.parenthesis])
          (fun first others => Node.gather .call (first :: others)) none [] nodes)

/-- The words that end a restriction. -/
def afterRestriction : List String :=
  ["ORDER BY", "GROUP BY", "LIMIT", "UNION", "UNION ALL", "EXCEPT", "HAVING", "RETURNING", "INTO"]

/-- Groups a restriction from its first word to the word before one that ends it.  `held` is the
restriction so far, nearest first. -/
def restrictionsOf (held : Option (List Node)) (done : List Node) : List Node → List Node
  | [] =>
    match held with
    | some nodes => (Node.gather .restriction nodes.reverse :: done).reverse
    | none => done.reverse
  | n :: rest =>
    match held with
    | some nodes =>
      if n.isKeyword afterRestriction then
        restrictionsOf none (n :: Node.gather .restriction nodes.reverse :: done) rest
      else restrictionsOf (some (n :: nodes)) done rest
    | none =>
      if n.isKeyword ["WHERE"] then restrictionsOf (some [n]) done rest
      else restrictionsOf none (n :: done) rest

/-- Restrictions; a closing bracket is not part of one. -/
def restrictions : Node → Node :=
  Node.regroup (· == .restriction) fun shape nodes =>
    if shape == .parenthesis || shape == .brackets then
      restrictionsOf none [] nodes.dropLast ++ nodes.getLast?.toList
    else restrictionsOf none [] nodes

/-- Names and names in double quotes. -/
def isPlainName (k : Kind) : Bool :=
  k == .name || k == .symbol

/-- Names qualified by names. -/
def qualified : Join.Link where
  shape := .identifier
  isLink := Node.isLeaf fun t =>
    t.isMark "." || (t.kind == .operator && (t.text == "->" || t.text == "->>"))
  isLeft n := n.hasShape [.brackets, .call] || n.hasKind isPlainName
  isRight n := n.hasShape [.brackets, .call] ||
    n.hasKind fun k => isPlainName k || k == .wildcard || k == .text
  absorbs := true
  dangles := true

/-- An index after a name, on the outermost level. -/
def indexed : Node → Node
  | .group .statement w nodes =>
    .group .statement w (Join.left
      (fun p n => n.hasShape [.brackets] &&
        (p.hasShape [.brackets, .identifier, .call] || p.hasKind isPlainName))
      (Node.extend .identifier) [] nodes)
  | n => n

/-- Names by themselves. -/
def names : Node → Node :=
  Node.regroup (· == .identifier) fun _ nodes =>
    nodes.map fun n => if n.hasKind isPlainName then Node.gather .identifier [n] else n

/-- A name or a number with the direction of an ordering. -/
def ordered : Node → Node :=
  Node.regroup (· == .identifier) fun _ =>
    Join.left
      (fun p n => n.hasKind (· == .direction) &&
        (p.hasShape [.identifier] || p.hasKind Kind.isNumber))
      (fun p others => Node.gather .identifier (p :: others)) []

def cast : Join.Link where
  shape := .identifier
  isLink := Node.isMark "::"
  isLeft _ := true
  isRight _ := true
  absorbs := true
  dangles := false

/-- Casts to a time zone. -/
def zoned : Join.Link where
  shape := .identifier
  isLink := Node.hasKind (· == .zone)
  isLeft _ := true
  isRight n := n.isKeyword ["AS"] || n.hasKind (· == .text)
  absorbs := true
  dangles := false

/-- A type with a literal of it, where something stands before it, and then its unit. -/
def typedLiterals : Node → Node :=
  let isType := Node.isLeaf fun t => t.kind == .builtin || t.isKeyword ["TIMESTAMP"]
  let units := ["DAY", "HOUR", "MINUTE", "MONTH", "SECOND", "YEAR"]
  let onLevel (nodes : List Node) : List Node :=
    let blanks := nodes.takeWhile Node.isBlank
    match nodes.drop blanks.length with
    | first :: rest =>
      blanks ++ first :: Join.right isType (fun _ n => n.hasKind (· == .text))
        (fun p others => Node.gather .typedLiteral (p :: others)) none [] rest
    | [] => nodes
  Node.regroup (· == .typedLiteral) fun _ nodes =>
    Join.right (Node.hasShape [.typedLiteral]) (fun _ n => n.isKeyword units)
      (Node.extend .typedLiteral) none [] (onLevel nodes)

/-- What can stand on a side of an operator. -/
def isOperand (n : Node) : Bool :=
  n.hasShape [.brackets, .parenthesis, .call, .identifier, .operation, .typedLiteral] ||
    n.hasKind Kind.isOperand || n.isKeyword ["CURRENT_DATE", "CURRENT_TIME", "CURRENT_TIMESTAMP"]

/-- Operations with two sides. -/
def operation : Join.Link where
  shape := .operation
  isLink := Node.hasKind fun k => k == .operator || k == .wildcard
  isLeft := isOperand
  isRight := isOperand
  absorbs := false
  dangles := false

/-- What can stand on a side of a comparison. -/
def isCompared (n : Node) : Bool :=
  n.hasShape [.parenthesis, .call, .identifier, .operation, .typedLiteral] ||
    n.hasKind Kind.isOperand || n.isKeyword ["NULL"]

def comparison : Join.Link where
  shape := .comparison
  isLink := Node.hasKind (· == .comparison)
  isLeft := isCompared
  isRight := isCompared
  absorbs := false
  dangles := false

/-- Parts renamed by a word. -/
def renamed : Join.Link where
  shape := .identifier
  isLink := Node.isKeyword ["AS"]
  isLeft n := n.isKeyword ["NULL"] || !n.hasKind Kind.isKeyword
  isRight n := !n.hasKind fun k => k == .rowStatement || k == .tableStatement || k == .withWord
  absorbs := true
  dangles := false

/-- Parts renamed without a word. -/
def aliased : Node → Node :=
  Node.regroup (fun _ => false) fun _ =>
    Join.right
      (fun n => n.hasShape [.parenthesis, .call, .choice, .identifier, .operation, .comparison] ||
        n.hasKind Kind.isNumber)
      (fun _ n => n.hasShape [.identifier]) (Node.extend .identifier) none []

/-- Assignments, each with what follows its right side up to a semicolon. -/
def assignments : Node → Node :=
  Node.regroup (· == .assignment) fun _ => onLevel 0 []
where
  /-- What can stand on a side of an assignment. -/
  isSide (n : Node) : Bool := !n.hasKind (· == .keyword)
  /-- How many of the nodes after the sign belong to the assignment. -/
  extent (rest : List Node) : Nat :=
    let side := (rest.takeWhile Node.isBlank).length + 1
    let tail := rest.drop side
    let more := tail.takeWhile (!·.isMark ";")
    if more.length == tail.length then side else side + more.length + 1
  /-- Joins the assignments of a level; `taken` nodes belong to the last one. -/
  onLevel (taken : Nat) (done : List Node) : List Node → List Node
    | [] => done.reverse
    | n :: rest =>
      if taken != 0 then onLevel (taken - 1) done rest
      else
        let blanks := done.takeWhile Node.isBlank
        match done.drop blanks.length with
        | p :: before =>
          if n.hasKind (· == .assignment) && isSide p && (rest.find? (!·.isBlank)).any isSide then
            let others := rest.take (extent rest)
            onLevel others.length
              (p.extend .assignment (blanks.reverse ++ n :: others) :: before) rest
          else onLevel 0 (n :: done) rest
        | [] => onLevel 0 (n :: done) rest

/-- A comment belongs to the group before it. -/
def alignedComments : Node → Node :=
  Node.regroup (fun _ => false) fun _ =>
    Join.left (fun p n => n.hasShape [.comment] && p.isGroup) Node.absorb []

/-- Lists of parts with commas between them. -/
def list : Join.Link where
  shape := .items
  isLink := Node.isMark ","
  isLeft := isItem
  isRight := isItem
  absorbs := true
  dangles := false
where
  isItem (n : Node) : Bool :=
    n.hasShape [.call, .choice, .identifier, .comparison, .items, .operation] ||
      n.hasKind fun k => k.isOperand || k == .keyword || k == .wildcard

/-- The rows of a `VALUES` list, on the outermost level: from its word to the last parenthesis. -/
def rows : Node → Node
  | .group .statement w nodes =>
    let before := nodes.takeWhile (!·.isKeyword ["VALUES"])
    let rest := nodes.drop before.length
    let after := (rest.reverse.takeWhile (!·.hasShape [.parenthesis])).reverse
    let inside := rest.take (rest.length - after.length)
    if inside.isEmpty then .group .statement w nodes
    else .group .statement w (before ++ Node.gather .rows inside :: after)
  | n => n

/-- The steps that make the constructs, in order. -/
def steps : List (Node → Node) :=
  enclosures ++
    [windows, calls, restrictions, qualified.apply, indexed, names, ordered, cast.apply,
      zoned.apply, typedLiterals, operation.apply, comparison.apply, renamed.apply, aliased,
      assignments, alignedComments, list.apply, rows]

end Construct

/-- The tree of a statement. -/
def Node.ofTokens (tokens : List Token) : Node :=
  Construct.steps.foldl (fun n step => step n)
    (Node.gather .statement (Construct.comments [] [] (tokens.map Node.leaf)))

end SplitTest.Layout

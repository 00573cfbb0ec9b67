import SplitTest.Layout.Node

/-! Ways to make groups out of the nodes of one level.  Each goes through the level once, keeps the
nodes it has passed in `done`, nearest first, and loses no node; blanks never decide anything. -/

namespace SplitTest.Layout.Join

/-- Groups what stands between an opening and a closing node.  `stack` holds what stands before each
opening that is not closed yet.  A closing node without an opening is an ordinary node. -/
def pairs (shape : Shape) (opens closes : Node → Bool) (done : List Node)
    (stack : List (List Node)) : List Node → List Node
  | [] => (stack.foldl (fun inner outer => inner ++ outer) done).reverse
  | n :: rest =>
    if opens n then pairs shape opens closes [n] (done :: stack) rest
    else if closes n then
      match stack with
      | [] => pairs shape opens closes (n :: done) [] rest
      | outer :: stack =>
        pairs shape opens closes (Node.gather shape (n :: done).reverse :: outer) stack rest
    else pairs shape opens closes (n :: done) stack rest

/-- Joins a node to the one on its left where `accept` says so. -/
def left (accept : Node → Node → Bool) (join : Node → List Node → Node) (done : List Node) :
    List Node → List Node
  | [] => done.reverse
  | n :: rest =>
    let blanks := done.takeWhile Node.isBlank
    match done.drop blanks.length with
    | p :: before =>
      if accept p n then left accept join (join p (blanks.reverse ++ [n]) :: before) rest
      else left accept join (n :: done) rest
    | [] => left accept join (n :: done) rest

/-- Joins a node that `starts` a pair to the one on its right where `accept` says so.  `held` is a
node that started one, with the blanks after it, nearest first. -/
def right (starts : Node → Bool) (accept : Node → Node → Bool)
    (join : Node → List Node → Node) (held : Option (Node × List Node)) (done : List Node) :
    List Node → List Node
  | [] =>
    match held with
    | some (first, blanks) => (blanks ++ first :: done).reverse
    | none => done.reverse
  | n :: rest =>
    match held with
    | some (first, blanks) =>
      if n.isBlank then right starts accept join (some (first, n :: blanks)) done rest
      else if accept first n then
        right starts accept join none (join first (blanks.reverse ++ [n]) :: done) rest
      else if starts n then
        right starts accept join (some (n, [])) (blanks ++ first :: done) rest
      else right starts accept join none (n :: blanks ++ first :: done) rest
    | none =>
      if starts n then right starts accept join (some (n, [])) done rest
      else right starts accept join none (n :: done) rest

/-- A construct made of a link and what stands on both its sides. -/
structure Link where
  /-- The group it makes. -/
  shape : Shape
  /-- What can be the link. -/
  isLink : Node → Bool
  /-- What can stand on the left. -/
  isLeft : Node → Bool
  /-- What can stand on the right. -/
  isRight : Node → Bool
  /-- Whether a left side that is such a group takes the rest in. -/
  absorbs : Bool
  /-- Whether a link without a right side still joins its left side. -/
  dangles : Bool

namespace Link

/-- Joins a left side to what follows it. -/
def join (l : Link) (first : Node) (others : List Node) : Node :=
  if l.absorbs then first.extend l.shape others else Node.gather l.shape (first :: others)

/-- A link that waits for its right side. -/
structure Waiting where
  /-- The link itself. -/
  link : Node
  /-- What is joined to the left side with the right side, nearest first. -/
  held : List Node

/-- Joins nodes to the nearest node of `done` that is not a blank. -/
def joinTo (l : Link) (others done : List Node) : List Node :=
  let blanks := done.takeWhile Node.isBlank
  match done.drop blanks.length with
  | first :: before => l.join first (blanks.reverse ++ others) :: before
  | [] => others.reverse ++ done

/-- The end of a level, where a link finds no right side. -/
def finish (l : Link) (waiting : Option Waiting) (done : List Node) : List Node :=
  match waiting with
  | none => done.reverse
  | some w =>
    if l.dangles then
      let blanks := w.held.takeWhile Node.isBlank
      (blanks ++ l.joinTo (w.held.drop blanks.length).reverse done).reverse
    else (w.held ++ done).reverse

/-- Joins each link of a level to its sides.  `last` is the last node that was passed, blanks apart;
a right side that is a link itself waits for a right side of its own. -/
def level (l : Link) (last : Option Node) (waiting : Option Waiting) (done : List Node) :
    List Node → List Node
  | [] => l.finish waiting done
  | n :: rest =>
    match waiting with
    | some w =>
      if n.isBlank then l.level last (some { w with held := n :: w.held }) done rest
      else if l.isRight n then
        let done := l.joinTo (n :: w.held).reverse done
        if l.isLink n && done.head?.any l.isLeft then l.level last (some ⟨n, []⟩) done rest
        else l.level (some n) none done rest
      else
        let blanks := w.held.takeWhile Node.isBlank
        let done :=
          if l.dangles then blanks ++ l.joinTo (w.held.drop blanks.length).reverse done
          else w.held ++ done
        let last := if l.dangles then done.find? (!·.isBlank) else some w.link
        if l.isLink n && last.any l.isLeft then l.level last (some ⟨n, [n]⟩) done rest
        else l.level (some n) none (n :: done) rest
    | none =>
      if n.isBlank then l.level last none (n :: done) rest
      else if l.isLink n && last.any l.isLeft then l.level last (some ⟨n, [n]⟩) done rest
      else l.level (some n) none (n :: done) rest

/-- Joins the links of every level of a tree. -/
def apply (l : Link) : Node → Node :=
  Node.regroup (· == l.shape) fun _ => l.level none none []

end Link

end SplitTest.Layout.Join

/-! Replacement of parts of a text in one pass from left to right.  At each position the pass either
finds a part to replace, puts the replacement in its place and goes on after it, or keeps one
character. -/

namespace SplitTest.Text

/-- One pass over a text.  `found` gives the length of the part to replace at the start of the text,
if there is one there; `skip` counts the characters that the last part still covers. -/
def replacePass (found : List Char → Option Nat) (replacement : List Char) :
    (skip : Nat) → List Char → List Char
  | _, [] => []
  | skip + 1, _ :: rest => replacePass found replacement skip rest
  | 0, c :: rest =>
    match found (c :: rest) with
    | some n => replacement ++ replacePass found replacement (n - 1) rest
    | none => c :: replacePass found replacement 0 rest

/-- Replaces every part that `found` finds. -/
def replaceFound (found : List Char → Option Nat) (replacement s : String) : String :=
  String.ofList (replacePass found replacement.toList 0 s.toList)

/-- The length of a fixed text at the start of another. -/
def fixedPart (part : String) (cs : List Char) : Option Nat :=
  if part.toList.isPrefixOf cs && !part.isEmpty then some part.length else none

/-- Replaces every occurrence of a text. -/
def replaceAll (part replacement s : String) : String :=
  replaceFound (fixedPart part) replacement s

/-- Whether a character list occurs in another. -/
def occursIn (part : List Char) : List Char → Bool
  | [] => part.isEmpty
  | c :: rest => part.isPrefixOf (c :: rest) || occursIn part rest

/-- Whether a text occurs in another. -/
def contains (part s : String) : Bool :=
  occursIn part.toList s.toList

end SplitTest.Text

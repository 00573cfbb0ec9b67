import SplitTest.Query.Basic
import SplitTest.Schema.Experiment
import SplitTest.Text.Blank
import SplitTest.Text.Replace

/-! Raw SQL in place of composed queries.  An experiment may give the text of its users query or of
a metric's query itself; the text marks the start, the end and the experiment's key by placeholders
in double braces. -/

namespace SplitTest

namespace Placeholder

/-- The length of a placeholder with a given name at the start of a text: two opening braces, the
name with any blanks around it, and two closing braces. -/
def length? (name : String) : List Char → Option Nat
  | '\x7b' :: '\x7b' :: rest =>
    let inner := rest.dropWhile Text.isBlank
    if name.toList.isPrefixOf inner then
      match (inner.drop name.length).dropWhile Text.isBlank with
      | '\x7d' :: '\x7d' :: after => some (rest.length + 2 - after.length)
      | _ => none
    else none
  | _ => none

/-- Replaces every placeholder with a given name. -/
def fill (sql : String) (nameAndText : String × String) : String :=
  Text.replaceFound (length? nameAndText.1) nameAndText.2 sql

end Placeholder

namespace ExperimentDefinition

/-- The placeholders of an override with the texts that they stand for. -/
def placeholders (e : ExperimentDefinition) (d : Dialect) (phase : ExperimentPhase)
    (now : DateTime) :
    Except Fault (List (String × String)) := do
  let first ← d.formatTimestamp phase.dateStarted
  let last ← d.formatTimestamp (phase.dateEnded.getD now)
  pure [("dateStart", first.text), ("dateEnd", last.text),
    ("experimentKey", (Sql.literal e.trackingKey).text)]

/-- The override under a key, its placeholders filled in. -/
def override (e : ExperimentDefinition) (d : Dialect) (phase : ExperimentPhase) (key : String)
    (now : DateTime) : Except Fault (Option String) :=
  match e.sqlOverride.lookup key with
  | none => .ok none
  | some sql => (e.placeholders d phase now).map fun ps => some (ps.foldl Placeholder.fill sql)

end ExperimentDefinition

end SplitTest

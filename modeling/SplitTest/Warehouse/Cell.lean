import SplitTest.Value

/-! The texts of a warehouse's cells.  Every cell but a null becomes a text; a time is written to
the second, without its offset. -/

namespace SplitTest.Warehouse

/-- The text of a cell; a null has none. -/
def cellText? : Value → Option String
  | .null => none
  | .datetime t => some t.stampText
  | v => some v.display

/-- A cell as it appears in a row of texts. -/
def cellText (v : Value) : Value :=
  match cellText? v with
  | some s => .text s
  | none => .null

end SplitTest.Warehouse

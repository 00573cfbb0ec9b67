import SplitTest.Proofs.Assignments
import SplitTest.Proofs.Results.Cells

/-! Rows as a warehouse hands them over: every cell is a text or a null.  Such cells are read
without a fault, so a merge of such rows always ends. -/

namespace SplitTest

/-- A cell of a text row is a text or a null. -/
def Value.isTextCell : Value → Bool
  | .null | .text _ => true
  | _ => false

/-- A row of texts and nulls. -/
def Row.isText (row : Row) : Bool :=
  row.all fun cell => cell.2.isTextCell

theorem Row.isTextCell_get {row : Row} (h : row.isText = true) (column : String) :
    (row.get column).isTextCell = true := by
  cases hcell : row.lookup column with
  | none => simp [Row.get, hcell, Value.isTextCell]
  | some v => simpa [Row.get, hcell] using List.all_eq_true.mp h _ (mem_of_lookup hcell)

theorem Cell.toInt_of_isTextCell {v : Value} (h : v.isTextCell = true) :
    ∃ n, Cell.toInt v = .ok n := by
  cases v with
  | null => exact ⟨_, rfl⟩
  | text s => exact ⟨_, rfl⟩
  | _ => simp [Value.isTextCell] at h

theorem Cell.toDouble_of_isTextCell {v : Value} (h : v.isTextCell = true) :
    ∃ x, Cell.toDouble v = .ok x := by
  cases v with
  | null => exact ⟨_, rfl⟩
  | text s => exact ⟨_, rfl⟩
  | _ => simp [Value.isTextCell] at h

namespace Row

/-- The whole number in a cell; zero where none can be read. -/
def wholeIn (row : Row) (column : String) : Int :=
  (Cell.toInt (row.get column)).toOption.getD 0

/-- The floating point number in a cell; zero where none can be read. -/
def numberIn (row : Row) (column : String) : Double :=
  (Cell.toDouble (row.get column)).toOption.getD Double.zero

variable {row : Row} (h : row.isText = true) (column : String)
include h

theorem toInt_get : Cell.toInt (row.get column) = .ok (row.wholeIn column) := by
  obtain ⟨n, hn⟩ := Cell.toInt_of_isTextCell (isTextCell_get h column)
  rw [wholeIn, hn]
  rfl

theorem toDouble_get : Cell.toDouble (row.get column) = .ok (row.numberIn column) := by
  obtain ⟨x, hx⟩ := Cell.toDouble_of_isTextCell (isTextCell_get h column)
  rw [numberIn, hx]
  rfl

end Row

namespace Merge

theorem Item.change_of_isText {item : Item} (h : item.row.isText = true) :
    ∃ change, item.change = .ok change := by
  cases item with
  | users row =>
    obtain ⟨users, hu⟩ := Cell.toInt_of_isTextCell (Row.isTextCell_get h "users")
    exact ⟨_, by simp only [Item.change, Item.row, hu] at *; rfl⟩
  | metric id row =>
    obtain ⟨count, hc⟩ := Cell.toInt_of_isTextCell (Row.isTextCell_get h "count")
    obtain ⟨mean, hm⟩ := Cell.toDouble_of_isTextCell (Row.isTextCell_get h "mean")
    obtain ⟨stddev, hs⟩ := Cell.toDouble_of_isTextCell (Row.isTextCell_get h "stddev")
    exact ⟨_, by simp only [Item.change, Item.row, hc, hm, hs] at *; rfl⟩

/-- A run over text rows ends without a fault. -/
theorem Context.run_of_isText (c : Context) {items : List Item}
    (h : ∀ item ∈ items, item.row.isText = true) (s : State) :
    ∃ s', c.run s items = (s', none) := by
  induction items generalizing s with
  | nil => exact ⟨s, rfl⟩
  | cons item rest ih =>
    obtain ⟨change, hc⟩ := Item.change_of_isText (h item List.mem_cons_self)
    obtain ⟨s1, hstep⟩ : ∃ s1, c.step s item = .ok s1 := by
      cases hp : c.place item.row with
      | none => exact ⟨_, by simp only [Context.step, hp]; rfl⟩
      | some i => exact ⟨_, by simp only [Context.step, hp, hc]; rfl⟩
    obtain ⟨s', hrest⟩ := ih (fun item hi => h item (List.mem_cons_of_mem _ hi)) s1
    exact ⟨s', by simp [Context.run, hstep, hrest]⟩

end Merge

end SplitTest

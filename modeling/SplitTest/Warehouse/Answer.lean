import SplitTest.Warehouse.Runner

/-! Answers of a warehouse as documents.  An answer is an object with the columns and rows of a
result, or with the kind and message of an error. -/

namespace SplitTest.Warehouse

/-- The items of a list; anything else has none. -/
def itemsOf : Value → List Value
  | .list items => items
  | _ => []

/-- The answer that the fields of a document describe. -/
def Response.ofFields (fields : List (String × Value)) : Response :=
  let get (name : String) := (Value.field? name fields).getD .null
  match get "error" with
  | .text kind => .fails kind (get "message").display
  | _ => .rows ((itemsOf (get "columns")).map Value.display) ((itemsOf (get "rows")).map itemsOf)

/-- The query that a document answers. -/
def Query.ofDocument : Value → Query
  | .object fields => ⟨.ofFields fields, false⟩
  | _ => ⟨.rows [] [], false⟩

end SplitTest.Warehouse

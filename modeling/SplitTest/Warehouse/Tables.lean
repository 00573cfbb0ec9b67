import SplitTest.Fault
import SplitTest.Value

/-! Statements on the warehouse's tables: the definitions of the tracking tables, the insertion of
rows and their count. -/

namespace SplitTest.Warehouse

/-- A row to insert: its values by column. -/
abbrev Record := List (String × Value)

/-- A statement, with the values for its placeholders row by row. -/
structure Statement where
  sql : String
  parameters : Option (List (List Value))

/-- A statement without placeholders. -/
def Statement.plain (sql : String) : Statement := ⟨sql, none⟩

/-- The definition of a table with columns, each given by name and type. -/
def tableDefinition (name : String) (columns : List (String × String)) : String :=
  let line (c : String × String) := "        " ++ Text.padRight 15 c.1 ++ c.2
  "\n    CREATE TABLE IF NOT EXISTS " ++ name ++ " (\n" ++
    ",\n".intercalate (columns.map line) ++ "\n    );\n    "

/-- The statements that create the tracking tables where they are missing. -/
def trackingTables : List Statement :=
  [("experiment_viewed",
      [("user_id", "VARCHAR"), ("anonymous_id", "VARCHAR"), ("received_at", "TIMESTAMP NOT NULL"),
        ("experiment_id", "VARCHAR NOT NULL"), ("variation_id", "VARCHAR NOT NULL")]),
    ("pages",
      [("user_id", "VARCHAR"), ("anonymous_id", "VARCHAR"), ("received_at", "TIMESTAMP NOT NULL"),
        ("path", "VARCHAR")]),
    ("identifies", [("user_id", "VARCHAR NOT NULL"), ("anonymous_id", "VARCHAR NOT NULL")]),
    ("users", [("user_id", "VARCHAR PRIMARY KEY"), ("received_at", "TIMESTAMP")])].map
    fun t => .plain (tableDefinition t.1 t.2)

def Record.value (r : Record) (column : String) : Except Fault Value :=
  match Value.field? column r with
  | some v => .ok v
  | none => .error (.missingKey column)

/-- The statement that inserts rows, with a placeholder for each column of the first row.  Without
rows there is none; a row that lacks a column makes it fail. -/
def insertion? (table : String) (rows : List Record) : Except Fault (Option Statement) :=
  match rows with
  | [] => .ok none
  | first :: _ => do
    let columns := first.map Prod.fst
    let parameters ← rows.mapM fun r => columns.mapM r.value
    pure (some
      { sql := "INSERT INTO " ++ table ++ " (" ++ ", ".intercalate columns ++ ") VALUES (" ++
          ", ".intercalate (columns.map fun _ => "?") ++ ")"
        parameters := some parameters })

/-- The insertion of rows on a connection that gives an answer to each statement: the statements
that it sends, and the number of rows.  Where a row lacks a column nothing is sent; an error of the
connection is passed on. -/
def insertRows (answer : Statement → Except Fault Unit) (table : String) (rows : List Record) :
    List Statement × Except Fault Nat :=
  match insertion? table rows with
  | .ok none => ([], .ok 0)
  | .ok (some s) => ([s], (answer s).map fun _ => rows.length)
  | .error f => ([], .error f)

/-- The statement that counts the rows of a table. -/
def rowCount (table : String) : Statement :=
  .plain ("SELECT COUNT(*) FROM " ++ table)

end SplitTest.Warehouse

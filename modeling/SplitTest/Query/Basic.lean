import SplitTest.Dialect
import SplitTest.SourceSettings

/-! Sources and queries.  A source is a place to run queries against: its settings and its dialect.
A query is a chain of derived tables, each a SELECT under a name that later parts read, and a body
that reads the last of them. -/

namespace SplitTest

structure Source where
  settings : SourceSettings
  dialect : Dialect

/-- A named SELECT. -/
structure DerivedTable where
  name : String
  body : Sql
  deriving DecidableEq

/-- The definition of a derived table. -/
def DerivedTable.sql (t : DerivedTable) : Sql :=
  .concat [t.name, " as (", t.body, ")"]

/-- A query: a title, derived tables, and a body. -/
structure Query where
  title : String
  tables : List DerivedTable
  /-- The text between two derived tables. -/
  separator : String
  body : Sql
  deriving DecidableEq

namespace Query

/-- The text of a query. -/
def sql (q : Query) : Sql :=
  .concat [.comment q.title, "\n    WITH\n      ",
    .join q.separator (q.tables.map DerivedTable.sql), "\n    ", q.body]

/-- The separator that stands in front of each table but the first. -/
def leadingComma : String := "\n      , "

/-- The separator that ends each table but the last. -/
def trailingComma : String := ",\n      "

end Query

/-- The element of a list at a position that a document gives; a negative position counts from the
end. -/
def elementAt {α : Type} (xs : List α) : Value → Except Fault α
  | .int n => pick n
  | .bool b => pick (if b then 1 else 0)
  | _ => .error .wrongType
where
  /-- The element at a position. -/
  pick (n : Int) : Except Fault α :=
    let i := if n < 0 then n + xs.length else n
    match if i < 0 then none else xs[i.toNat]? with
    | some x => .ok x
    | none => .error .outOfRange

/-- The identifier type with a given name. -/
def IdType.ofValue? (v : Value) : Except Fault IdType :=
  match IdType.read v with
  | .ok t => .ok t
  | .failed _ => .error (.unknownIdType v.shown)

end SplitTest

import SplitTest.Query.Basic

/-! Bridging between user ids and anonymous ids.  A query counts people by one identifier type; a
table that knows them by the other is joined with the identifies table, which has both.  The
identifies table is always called `i`. -/

namespace SplitTest

/-- The identifier to select from a table, and the join that it needs. -/
structure IdentityJoin where
  column : Sql
  join : Sql
  deriving DecidableEq

namespace Source

/-- The join that matches a column of identifiers of the type `native` with the identifies table. -/
def identifiesJoin (s : Source) (nativeColumn : Sql) (native : IdType) : Sql :=
  .concat ["JOIN ", s.dialect.fullTableName s.settings.identifies.table, " i ON (\n  i.",
    s.settings.idColumn native .identifies none, " = ", nativeColumn, "\n)"]

/-- The identifier of the type `requested` for a table called `tableName` that has identifiers of
the type `native`.  The two columns are the table's names for its own and for the requested type. -/
def reconcile (s : Source) (requested native : IdType)
    (tableName nativeColumn requestedColumn : String) : IdentityJoin :=
  if requested = native then ⟨.concat [tableName, ".", requestedColumn], .empty⟩
  else
    ⟨.concat ["i.", s.settings.idColumn requested .identifies none],
      s.identifiesJoin (.concat [tableName, ".", nativeColumn]) native⟩

end Source

end SplitTest

import SplitTest.Layout
import SplitTest.Text.Blank

/-! The audit script: the queries that were run, laid out and joined to one text. -/

namespace SplitTest.Audit

/-- The queries one after the other, each laid out by `layout`, with a semicolon and a blank line
between them and a semicolon at the end. -/
def scriptBy (layout : String → String) (queries : List String) : String :=
  ";\n\n".intercalate (queries.map layout) ++ ";"

/-- The layout of one query, without blanks at its ends. -/
def layoutQuery (sql : String) : String :=
  Text.trim (Layout.ofText sql)

def script (queries : List String) : String :=
  scriptBy layoutQuery queries

end SplitTest.Audit

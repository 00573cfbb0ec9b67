/-! Log entries: what happened, and how much it matters. -/

namespace SplitTest

/-- How much an entry matters. -/
inductive Severity
  | info
  | warning
  deriving DecidableEq

def Severity.name : Severity → String
  | info => "INFO"
  | warning => "WARNING"

structure LogEntry where
  severity : Severity
  message : String
  deriving DecidableEq

def LogEntry.text (e : LogEntry) : String :=
  e.severity.name ++ " " ++ e.message

end SplitTest

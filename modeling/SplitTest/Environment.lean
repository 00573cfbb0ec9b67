import SplitTest.Query.Basic
import SplitTest.SourceSettings
import SplitTest.Text.Case

/-! Settings of a run that come from environment variables.  A variable belongs to a setting if its
name, in whatever case it is written, is the setting's name behind `ANALYSIS_`. -/

namespace SplitTest

/-- The settings of a run. -/
structure Environment where
  dbPath : String
  dialect : String
  /-- How long a query may take, in seconds. -/
  queryTimeout : Option Double
  bigqueryProject : Option String
  bigqueryDataset : Option String
  logLevel : String
  logFormat : String

namespace Environment

/-- The value of a setting: that of the last variable that belongs to it. -/
def value? (vars : List (String × String)) (setting : String) : Option String :=
  (vars.reverse.find? fun v => Text.lower v.1 == "analysis_" ++ setting).map Prod.snd

/-- The name of the setting for the longest time of a query. -/
def timeoutSetting : String := "query_timeout_seconds"

/-- Reads the longest time of a query. -/
def readTimeout (vars : List (String × String)) : Except Fault (Option Double) :=
  match value? vars timeoutSetting with
  | none => .ok none
  | some s =>
    (SourceSettings.accepted ((Reader.double (.text s)).under timeoutSetting)).map some

/-- Reads the settings from variables, each a name with its value. -/
def ofVariables (vars : List (String × String)) : Except Fault Environment := do
  let get := value? vars
  let queryTimeout ← readTimeout vars
  pure { dbPath := (get "db_path").getD "data/analytics.duckdb"
         dialect := (get "dialect").getD "duckdb"
         queryTimeout
         bigqueryProject := get "bigquery_project"
         bigqueryDataset := get "bigquery_dataset"
         logLevel := (get "log_level").getD "INFO"
         logFormat := (get "log_format").getD "text" }

/-- The dialect that a configuration names, or else that of the environment. -/
def dialectOf (e : Environment) (config : List (String × Value)) : Except Fault Dialect :=
  match Value.field? "dialect" config with
  | none => Dialect.ofName? e.dialect e.bigqueryProject e.bigqueryDataset
  | some (.text name) => Dialect.ofName? name e.bigqueryProject e.bigqueryDataset
  | some _ => .error .wrongShape

def source (e : Environment) (config : Value) : Except Fault Source :=
  match config with
  | .object fields => do
    let dialect ← e.dialectOf fields
    let settings ← SourceSettings.resolve ((Value.field? "source_settings" fields).getD .null)
    pure { settings, dialect }
  | _ => .error .wrongShape

end Environment

end SplitTest

import SplitTest.Command.Argument

/-! The command line of the program: options of the program itself, the name of a command, and the
command's own options. -/

namespace SplitTest.Command

/-- What the program is to do. -/
inductive Task
  /-- Analyse the experiment of a configuration, and export the results where a location is given.
  -/
  | experiment (config : String) (out : Option String)
  /-- Look for experiments of the last days. -/
  | pastExperiments (config : Option String) (days : Int)
  /-- Estimate what an experiment on pages could change in a metric. -/
  | impact (config metric urlRegex : String)
  deriving DecidableEq

/-- A command line that has been read. -/
structure Options where
  database : Option String
  showSql : Bool
  task : Task
  deriving DecidableEq

def requiredText (name : String) : OptionSpec := ⟨[name], .text, true⟩

def optionalText (name : String) : OptionSpec := ⟨[name], .text, false⟩

def programSpecs : List OptionSpec :=
  [.help, optionalText "--db", ⟨["--show-sql"], .nothing, false⟩]

/-- A command: its options, and the task they make. -/
structure CommandSpec where
  specs : List OptionSpec
  task : Taken → Task

/-- The command that analyses an experiment. -/
def experimentCommand : CommandSpec where
  specs := [.help, requiredText "--config", optionalText "--out"]
  task t := .experiment ((t.text? "--config").getD "") (t.text? "--out")

/-- The command that looks for past experiments, a year back unless told otherwise. -/
def pastExperimentsCommand : CommandSpec where
  specs := [.help, optionalText "--config", ⟨["--days"], .whole, false⟩]
  task t := .pastExperiments (t.text? "--config") ((t.whole? "--days").getD 365)

/-- The command that estimates an impact, on all pages unless told otherwise. -/
def impactCommand : CommandSpec where
  specs :=
    [.help, requiredText "--config", requiredText "--metric", optionalText "--url-regex"]
  task t := .impact ((t.text? "--config").getD "") ((t.text? "--metric").getD "")
    ((t.text? "--url-regex").getD ".*")

def commands : List (String × CommandSpec) :=
  commandNames.zip [experimentCommand, pastExperimentsCommand, impactCommand]

/-- Refuses what has been taken if a required option is missing. -/
def complete (specs : List OptionSpec) (t : Taken) : Except Stop Taken :=
  let missing := t.missing specs
  if missing.isEmpty then .ok t else .error (.refused (.missing missing))

/-- Reads the arguments of a command. -/
def CommandSpec.parse (c : CommandSpec) (args : List String) : Except Stop Taken := do
  let readings ← Reading.ofArguments c.specs args
  complete c.specs (← Taken.nothing.options false readings)

/-- Reads a command line. -/
def Options.parse (args : List String) : Except Stop Options := do
  let readings ← Reading.ofArguments programSpecs args
  let (taken, rest) ← Taken.nothing.leadingOptions false readings
  match rest with
  | [] => .error (.refused (.missing ["command"]))
  | name :: args =>
    match commands.lookup name with
    | none => .error (.refused (.unknownCommand name))
    | some command => do
      let own ← command.parse args
      let extras := taken.extras ++ own.extras
      if extras.isEmpty then
        pure { database := taken.text? "--db", showSql := taken.has "--show-sql"
               task := command.task own }
      else .error (.refused (.unrecognized extras))

end SplitTest.Command

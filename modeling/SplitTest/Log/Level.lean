import SplitTest.Fault
import SplitTest.Text.Case

/-! Levels of log records.  A level is a number, and a record matters the more the higher its level
is; some levels have names, and a word of the configuration stands for one of them. -/

namespace SplitTest.Log

/-- How much a record matters. -/
abbrev Level := Int

namespace Level

/-- The level of entries that report progress. -/
def info : Level := 20

/-- The level of entries that report something unexpected. -/
def warning : Level := 30

/-- The words of the configuration and their levels. -/
def words : List (String × Level) :=
  [("CRITICAL", 50), ("FATAL", 50), ("ERROR", 40), ("WARNING", warning), ("WARN", warning),
    ("INFO", info), ("DEBUG", 10), ("NOTSET", 0)]

/-- The word that stands for a record format in place of a level, and the format. -/
def formatWord : String × String :=
  ("BASIC_FORMAT", "%(levelname)s:%(name)s:%(message)s")

/-- The word that stands for the table of template styles in place of a level. -/
def stylesWord : String := "_STYLES"

/-- The level a word stands for, in whatever case it is written.  A word that stands for nothing is
taken for `INFO`, and one that stands for something else is refused: a format as a name that no
level has, the table of styles as a value of the wrong type. -/
def ofWord (word : String) : Except Fault Level :=
  let word := Text.upper word
  if word == formatWord.1 then .error (.unknownLevel (Text.quoted formatWord.2))
  else if word == stylesWord then .error .wrongType
  else .ok ((words.lookup word).getD info)

def name (l : Level) : String :=
  match l with
  | 50 => "CRITICAL"
  | 40 => "ERROR"
  | 30 => "WARNING"
  | 20 => "INFO"
  | 10 => "DEBUG"
  | 0 => "NOTSET"
  | l => "Level " ++ toString l

end Level

end SplitTest.Log

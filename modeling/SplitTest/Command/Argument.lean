import SplitTest.Number.Numeral
import SplitTest.Text.Quoted

/-! Arguments of a command line.  Each argument is an option, a value, or a mark after which there
are only values.  An option may be cut short as long as no other starts the same way, and it may be
joined to its value by an equals sign; a number below zero is a value. -/

namespace SplitTest.Command

inductive Takes
  /-- It asks for help. -/
  | help
  | nothing
  | text
  /-- It takes a whole number. -/
  | whole
  deriving DecidableEq

/-- An option. -/
structure OptionSpec where
  /-- Its spellings, of which the last is its name. -/
  spellings : List String
  takes : Takes
  required : Bool

/-- The option that asks for help. -/
def OptionSpec.help : OptionSpec := ⟨["-h", "--help"], .help, false⟩

/-- The option as messages name it. -/
def OptionSpec.shown (o : OptionSpec) : String :=
  "/".intercalate o.spellings

def OptionSpec.name (o : OptionSpec) : String :=
  o.spellings.getLast?.getD ""

/-- Why a command line is refused. -/
inductive UsageFault
  /-- An option cut short could be any of several. -/
  | ambiguous (given : String) (candidates : List String)
  /-- An option lacks its value. -/
  | expectsValue (option : String)
  /-- An option that takes no value has one. -/
  | ignoredValue (option given : String)
  /-- The value of an option is no whole number. -/
  | notWhole (option given : String)
  | unknownCommand (given : String)
  | missing (names : List String)
  | unrecognized (arguments : List String)
  | unknownMetric (id : String)
  deriving DecidableEq

/-- The names of the commands. -/
def commandNames : List String :=
  ["experiment", "past-experiments", "impact"]

namespace UsageFault

open Text

/-- The message of a fault. -/
def message : UsageFault → String
  | ambiguous given candidates =>
    "ambiguous option: " ++ given ++ " could match " ++ ", ".intercalate candidates
  | expectsValue option => "argument " ++ option ++ ": expected one argument"
  | ignoredValue option given =>
    "argument " ++ option ++ ": ignored explicit argument " ++ quoted given
  | notWhole option given => "argument " ++ option ++ ": invalid int value: " ++ quoted given
  | unknownCommand given =>
    "argument command: invalid choice: " ++ quoted given ++ " (choose from " ++
      ", ".intercalate (commandNames.map quoted) ++ ")"
  | missing names => "the following arguments are required: " ++ ", ".intercalate names
  | unrecognized arguments => "unrecognized arguments: " ++ " ".intercalate arguments
  | unknownMetric id => "unknown metric " ++ quoted id

end UsageFault

/-- Why the reading of a command line stops. -/
inductive Stop
  /-- Help is asked for. -/
  | help
  | refused (fault : UsageFault)
  deriving DecidableEq

/-- The value joined to a spelling. -/
structure Joined where
  /-- Whether an equals sign stands between them. -/
  bySign : Bool
  text : String

/-- How an argument is read. -/
inductive Reading
  /-- A value, or the name of a command. -/
  | value
  /-- The mark after which there are only values. -/
  | mark
  /-- An option by one of its spellings, perhaps joined to its value. -/
  | option (spec : OptionSpec) (spelling : String) (joined : Option Joined)
  /-- Something that looks like an option and is none. -/
  | unknown

namespace Reading

/-- Splits an argument at its first equals sign. -/
def splitJoined (cs : List Char) : List Char × Option Joined :=
  let name := cs.takeWhile (· != '=')
  match cs.drop name.length with
  | [] => (name, none)
  | _ :: rest => (name, some ⟨true, String.ofList rest⟩)

/-- The spellings of options, each with its option. -/
def spellings (specs : List OptionSpec) : List (String × OptionSpec) :=
  specs.flatMap fun o => o.spellings.map fun s => (s, o)

/-- The readings of an argument that starts like a spelling.  One with a single hyphen may also be a
spelling of two characters joined to its value. -/
def candidates (specs : List OptionSpec) (arg : String) :
    List (String × OptionSpec × Option Joined) :=
  let cs := arg.toList
  if cs.take 2 == ['-', '-'] then
    let (name, joined) := splitJoined cs
    (spellings specs).filterMap fun (s, o) =>
      if name.isPrefixOf s.toList then some (s, o, joined) else none
  else
    (spellings specs).filterMap fun (s, o) =>
      if s.toList == cs.take 2 then some (s, o, some ⟨false, String.ofList (cs.drop 2)⟩)
      else if cs.isPrefixOf s.toList then some (s, o, none)
      else none

/-- Whether an argument is a number below zero: digits, perhaps with a point among them that digits
follow. -/
def isNegativeNumber (arg : String) : Bool :=
  match arg.toList with
  | '-' :: cs =>
    let cs := if cs.getLast? == some '\n' then cs.dropLast else cs
    match cs.dropWhile Text.isDigit with
    | [] => !cs.isEmpty
    | '.' :: fraction => !fraction.isEmpty && fraction.all Text.isDigit
    | _ => false
  | _ => false

/-- The reading of an argument that is not the mark. -/
def ofArgument (specs : List OptionSpec) (arg : String) : Except Stop Reading :=
  let cs := arg.toList
  let (name, joined) := splitJoined cs
  if cs.head? != some '-' then .ok .value
  else
    match (spellings specs).lookup arg with
    | some o => .ok (.option o arg none)
    | none =>
      if cs.length == 1 then .ok .value
      else
        match joined, (spellings specs).lookup (String.ofList name) with
        | some v, some o => .ok (.option o (String.ofList name) (some v))
        | _, _ =>
          match candidates specs arg with
          | [(s, o, joined)] => .ok (.option o s joined)
          | [] => .ok (if isNegativeNumber arg || cs.contains ' ' then .value else .unknown)
          | several => .error (.refused (.ambiguous arg (several.map Prod.fst)))

/-- The readings of the arguments of a command line. -/
def ofArguments (specs : List OptionSpec) : List String → Except Stop (List (String × Reading))
  | [] => .ok []
  | arg :: rest =>
    if arg == "--" then .ok ((arg, .mark) :: rest.map fun a => (a, .value))
    else do
      let reading ← ofArgument specs arg
      let others ← ofArguments specs rest
      pure ((arg, reading) :: others)

end Reading

/-- The value of an option. -/
inductive Given
  | flag
  | text (s : String)
  | whole (n : Int)
  deriving DecidableEq

/-- What has been taken from a command line. -/
structure Taken where
  /-- The options by name, the last one first. -/
  given : List (String × Given)
  /-- The arguments that belong to nothing. -/
  extras : List String

namespace Taken

/-- Nothing has been taken. -/
def nothing : Taken := ⟨[], []⟩

/-- Takes an option. -/
def add (t : Taken) (o : OptionSpec) (v : Given) : Taken :=
  { t with given := (o.name, v) :: t.given }

def putAside (t : Taken) (arg : String) : Taken :=
  { t with extras := t.extras ++ [arg] }

/-- Whether an option was given. -/
def has (t : Taken) (name : String) : Bool :=
  (t.given.lookup name).isSome

def text? (t : Taken) (name : String) : Option String :=
  match t.given.lookup name with
  | some (.text s) => some s
  | _ => none

/-- The number of an option. -/
def whole? (t : Taken) (name : String) : Option Int :=
  match t.given.lookup name with
  | some (.whole n) => some n
  | _ => none

/-- The names of the required options that were not given. -/
def missing (t : Taken) (specs : List OptionSpec) : List String :=
  (specs.filter fun o => o.required && !t.has o.name).map OptionSpec.name

/-- The value of an option as it takes it. -/
def read (o : OptionSpec) (s : String) : Except Stop Given :=
  if o.takes == .whole then
    match intOfText? s with
    | some n => .ok (.whole n)
    | none => .error (.refused (.notWhole o.shown s))
  else .ok (.text s)

/-- The part of what is joined to the short spelling of the option for help that is ignored, or
nothing if help is asked for.  The spelling's letter may be repeated, and another letter after it
changes nothing. -/
def ignoredByHelp (bySign : Bool) : List Char → Option (List Char)
  | [] => some []
  | [c] => if bySign || c == '-' then some [c] else none
  | c :: d :: rest =>
    if bySign || c == '-' then some (c :: d :: rest)
    else if c != 'h' then none
    else if d == '=' then ignoredByHelp true rest
    else ignoredByHelp false (d :: rest)

/-- The option for help, with something joined to one of its spellings. -/
def helpWith (o : OptionSpec) (spelling : String) (joined : Joined) : Stop :=
  let ignored := if spelling.length == 2 then ignoredByHelp joined.bySign joined.text.toList
    else some joined.text.toList
  match ignored with
  | none => .help
  | some cs => .refused (.ignoredValue o.shown (String.ofList cs))

/-- The value of an option, and whether it is the next argument. -/
def valueOf (o : OptionSpec) (spelling : String) (joined : Option Joined)
    (next : Option (String × Reading)) : Except Stop (Given × Bool) :=
  match o.takes, joined, next with
  | .help, none, _ => .error .help
  | .help, some v, _ => .error (helpWith o spelling v)
  | .nothing, none, _ => .ok (.flag, false)
  | .nothing, some v, _ => .error (.refused (.ignoredValue o.shown v.text))
  | _, some v, _ => (read o v.text).map fun g => (g, false)
  | _, none, some (v, .value) => (read o v).map fun g => (g, true)
  | _, none, _ => .error (.refused (.expectsValue o.shown))

/-- Takes the options of arguments; `used` says that the first argument is the value of the option
before it. -/
def options (t : Taken) (used : Bool) : List (String × Reading) → Except Stop Taken
  | [] => .ok t
  | (arg, reading) :: rest =>
    if used then options t false rest
    else
      match reading with
      | .option o spelling joined => do
        let (v, used) ← valueOf o spelling joined rest.head?
        options (t.add o v) used rest
      | _ => options (t.putAside arg) false rest

/-- Takes the options before the first value, and gives the arguments from there on. -/
def leadingOptions (t : Taken) (used : Bool) :
    List (String × Reading) → Except Stop (Taken × List String)
  | [] => .ok (t, [])
  | (arg, reading) :: rest =>
    if used then leadingOptions t false rest
    else
      match reading with
      | .option o spelling joined => do
        let (v, used) ← valueOf o spelling joined rest.head?
        leadingOptions (t.add o v) used rest
      | .unknown => leadingOptions (t.putAside arg) false rest
      | .mark =>
        if rest.isEmpty then .ok (t.putAside arg, [])
        else .ok (t, arg :: rest.map Prod.fst)
      | .value => .ok (t, arg :: rest.map Prod.fst)

end Taken

end SplitTest.Command

import SearchBox.Filter.Json
import SearchBox.Json.Printer
import SearchBox.Query
import SearchBox.Settings
import SearchBox.Text.Digit

/-!
This module contains the command line: how its arguments are read, and what it prints about a query.
Options may be shortened as long as they are unambiguous, and may stand before or behind the query.
Two dashes end the options.
-/

namespace SearchBox.CommandLine

inductive Flag where
  | help
  | matchCase
  | matchWholeWord
  deriving DecidableEq, Repr

def spellings : List (String × Flag) :=
  [("-h", .help), ("--help", .help), ("--match-case", .matchCase),
    ("--match-whole-word", .matchWholeWord)]

def Flag.ofSpelling? (spelling : String) : Option Flag :=
  spellings.lookup spelling

def Flag.name (flag : Flag) : String :=
  "/".intercalate ((spellings.filter (·.2 == flag)).map Prod.fst)

inductive Refusal where
  | ambiguous (argument : String) (candidates : List String)
  | unusedValue (flag : Flag) (value : String)
  | missingQuery
  | unrecognized (arguments : List String)
  deriving DecidableEq, Repr

def Refusal.message : Refusal → String
  | .ambiguous argument candidates =>
    "ambiguous option: " ++ argument ++ " could match " ++ ", ".intercalate candidates
  | .unusedValue flag value =>
    "argument " ++ flag.name ++ ": ignored explicit argument " ++ Text.quoted value
  | .missingQuery => "the following arguments are required: query"
  | .unrecognized arguments => "unrecognized arguments: " ++ " ".intercalate arguments

inductive Argument where
  | plain (text : String)
  | option (flag : Flag) (value : Option String)
  | shortHelp (letters : List Char)
  | unknown (text : String)
  | endOfOptions
  deriving DecidableEq, Repr

def splitValue (cs : List Char) : List Char × Option (List Char) :=
  match cs.dropWhile (· != '=') with
  | [] => (cs, none)
  | _ :: value => (cs.takeWhile (· != '='), some value)

def candidates (start : List Char) : List (String × Flag) :=
  spellings.filter (fun spelling => start.isPrefixOf spelling.1.toList)

def isDigits (cs : List Char) : Bool :=
  !cs.isEmpty && cs.all Text.isDecimalDigit

def isNegativeNumber : List Char → Bool
  | '-' :: cs =>
    let cs := if cs.getLast? = some '\n' then cs.dropLast else cs
    let behind := cs.dropWhile Text.isDecimalDigit
    match behind with
    | [] => isDigits cs
    | c :: part => c == '.' && isDigits part
  | _ => false

/--
What an argument is that starts with a dash and is no spelling of an option. An unknown option is
not a negative number and has no space.
-/
def unspelled (argument : String) : Argument :=
  let cs := argument.toList
  if isNegativeNumber cs || cs.contains ' ' then .plain argument else .unknown argument

def classify (argument : String) : Except Refusal Argument :=
  let (start, value) := splitValue argument.toList
  let value := value.map String.ofList
  match argument.toList with
  | '-' :: c :: letters =>
    match Flag.ofSpelling? argument, value, Flag.ofSpelling? (String.ofList start) with
    | some flag, _, _ => .ok (.option flag none)
    | none, some value, some flag =>
      if c = '-' ∨ value.isEmpty then
        .ok (.option flag (some value))
      else
        -- with a single dash, an equals sign may stand before the letters behind an option
        .ok (.shortHelp value.toList)
    | none, _, _ =>
      if c = '-' then
        match candidates start with
        | [] => .ok (unspelled argument)
        | [(_, flag)] => .ok (.option flag value)
        | several => .error (.ambiguous argument (several.map Prod.fst))
      else if c = 'h' then
        .ok (.shortHelp letters)
      else
        .ok (unspelled argument)
  | _ => .ok (.plain argument)

def classifyAll : List String → Except Refusal (List Argument)
  | [] => .ok []
  | argument :: arguments =>
    if argument = "--" then
      -- behind two dashes there are no options
      .ok (.endOfOptions :: arguments.map .plain)
    else do
      let first ← classify argument
      let rest ← classifyAll arguments
      return first :: rest

structure Reading where
  query : Option String := none
  modes : Modes := {}
  extras : List String := []
  deriving DecidableEq, Repr, Inhabited

inductive Outcome where
  | help
  | refused (refusal : Refusal)
  | query (query : String) (modes : Modes)
  deriving DecidableEq, Repr

/--
What comes of `-h` with more letters behind it. Each letter is an option of its own, and the first
one that is not known is refused with all that follows it, as a value of the option before it.
-/
def helpOutcome (letters : List Char) : Outcome :=
  match letters.dropWhile (· == 'h') with
  | [] => .help
  | value => .refused (.unusedValue .help (String.ofList value))

def Reading.outcome (reading : Reading) : Outcome :=
  match reading.query, reading.extras with
  | none, _ => .refused .missingQuery
  | some query, [] => .query query reading.modes
  | some _, extras => .refused (.unrecognized extras)

def Reading.outcomeOf (reading : Reading) : List Argument → Outcome
  | [] => reading.outcome
  | .plain text :: rest =>
    if reading.query.isSome then
      { reading with extras := reading.extras ++ [text] }.outcomeOf rest
    else
      -- the first plain argument is the query, and two dashes beside it do not count
      match rest with
      | .endOfOptions :: rest => { reading with query := some text }.outcomeOf rest
      | rest => { reading with query := some text }.outcomeOf rest
  | .endOfOptions :: rest =>
    match reading.query, rest with
    | none, .plain text :: rest => { reading with query := some text }.outcomeOf rest
    | _, rest => { reading with extras := reading.extras ++ ["--"] }.outcomeOf rest
  | .unknown text :: rest => { reading with extras := reading.extras ++ [text] }.outcomeOf rest
  | .shortHelp letters :: _ => helpOutcome letters
  | .option flag (some value) :: _ => .refused (.unusedValue flag value)
  | .option .help none :: _ => .help
  | .option .matchCase none :: rest =>
    { reading with modes.matchCase := some true }.outcomeOf rest
  | .option .matchWholeWord none :: rest =>
    { reading with modes.matchWholeWord := some true }.outcomeOf rest

def outcome (arguments : List String) : Outcome :=
  match classifyAll arguments with
  | .ok arguments => Reading.outcomeOf {} arguments
  | .error refusal => .refused refusal

def usage : String :=
  "usage: parse_query.py [-h] [--match-case] [--match-whole-word] query\n"

def helpText : String :=
  usage ++ "\nCLI for inspecting how a search box string is parsed.\n\n"
    ++ "positional arguments:\n  query\n\n"
    ++ "options:\n  -h, --help          show this help message and exit\n"
    ++ "  --match-case\n  --match-whole-word\n"

structure Result where
  exit : Nat
  stdout : String := ""
  stderr : String := ""
  deriving DecidableEq, Repr

def report (options : Options) (query : String) : Json :=
  let filters := Filter.ofQuery query
  .object [("filters", Filter.listToJson filters),
    ("operators", Operator.listToJson (Operator.ofFilters options filters))]

def run (env : Environment) (arguments : List String) : Checked Result :=
  match outcome arguments with
  | .help => .ok { exit := 0, stdout := helpText }
  | .refused refusal =>
    .ok { exit := 2, stderr := usage ++ "parse_query.py: error: " ++ refusal.message ++ "\n" }
  | .query query modes => do
    -- the environment is only looked at if there is a query
    let settings ← Settings.load env []
    return { exit := 0, stdout := (report (settings.optionsFor modes) query).render ++ "\n" }

end SearchBox.CommandLine

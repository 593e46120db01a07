import PointsTo.Command.Options
import PointsTo.Journal

namespace PointsTo.Command

/-- The three analyses are tools of their own and commands of the suite. -/
inductive Tool where
  | suite
  | cha
  | hierarchy
  | pta
  | completions
deriving DecidableEq, Repr

/-- How reported lines are written. -/
inductive Format where
  | plain
  | structured
deriving DecidableEq, Repr

/-- What every analysis is told. -/
structure Common where
  level : Level := .info
  format : Format := .plain
  input : String
  output : Option String := none
deriving DecidableEq, Repr

structure PtaSettings where
  context : String := "ci"
  flowOutput : Option String := none
  withContexts : Bool := false
  dump : Bool := false
  methods : Option String := none
  vars : Option String := none
deriving DecidableEq, Repr

inductive Job where
  | cha (common : Common) (methods : Option String)
  | hierarchy (common : Common) (listMissing : Bool)
  | pta (common : Common) (settings : PtaSettings)
  | completions (shell : String)
deriving DecidableEq, Repr

/-- What a command line asks a tool for. -/
inductive Request where
  | job (job : Job)
  | help (tool : Tool)
  | version (title : String)
  | misuse
  | noCommand
deriving DecidableEq, Repr

namespace Tool

def name : Tool → String
  | suite => "heapflow"
  | cha => "cha"
  | hierarchy => "hierarchy"
  | pta => "pta"
  | completions => "gen-completions"

/-- The commands of the suite. -/
def commands : List Tool := [cha, hierarchy, pta, completions]

def shells : List String := ["bash", "elvish", "fish", "powershell", "zsh"]

def helpOption : Opt := { name := "help", letter := some 'h', role := .help }
def versionOption : Opt := { name := "version", letter := some 'V', role := .version }

def commonOptions : List Opt :=
  [{ name := "debug", letter := some 'd', role := .switch },
   { name := "verbose", letter := some 'v', role := .switch },
   { name := "ecslog", letter := some 'e', role := .switch },
   { name := "input", letter := some 'i' },
   { name := "output", letter := some 'o' },
   helpOption, versionOption]

def options : Tool → List Opt
  | suite => [helpOption, versionOption]
  | cha => commonOptions ++ [{ name := "filter-method" }]
  | hierarchy => commonOptions ++ [{ name := "missing", letter := some 'm', role := .switch }]
  | pta => commonOptions ++
      [{ name := "context", letter := some 'c' },
       { name := "pfg" },
       { name := "cs-callgraph", role := .switch },
       { name := "dump", role := .switch },
       { name := "filter-var" },
       { name := "filter-method" }]
  | completions =>
    [{ name := "shell", letter := some 's', choices := some shells }, helpOption]

end Tool

/-- What every analysis is told, if the input is named. -/
def Common.ofGiven? (given : Given) : Option Common := do
  let level :=
    if given.has "verbose" then .trace else if given.has "debug" then .debug else .info
  let format := if given.has "ecslog" then .structured else .plain
  return { level, format, input := ← given.lookup "input", output := given.lookup "output" }

def PtaSettings.ofGiven (given : Given) : PtaSettings where
  context := (given.lookup "context").getD "ci"
  flowOutput := given.lookup "pfg"
  withContexts := given.has "cs-callgraph"
  dump := given.has "dump"
  methods := given.lookup "filter-method"
  vars := given.lookup "filter-var"

namespace Tool

/-- The job that the options of a tool describe, if those that it needs are there. -/
def job? (t : Tool) (given : Given) : Option Job :=
  match t with
  | suite => none
  | cha => return .cha (← Common.ofGiven? given) (given.lookup "filter-method")
  | hierarchy => return .hierarchy (← Common.ofGiven? given) (given.has "missing")
  | pta => return .pta (← Common.ofGiven? given) (.ofGiven given)
  | completions => return .completions (← given.lookup "shell")

/-- Reads the words after the name of a tool, which presents itself under a title. -/
def requestAs (t : Tool) (title : String) (words : List String) : Request :=
  match Given.readWords t.options [] words with
  | .error .help => .help t
  | .error .version => .version title
  | .error .misuse => .misuse
  | .ok given =>
    match t, t.job? given with
    | suite, _ => .noCommand
    | _, none => .misuse
    | _, some job => .job job

/-- Reads the words after the name of a tool. For the suite the first one names a command. -/
def request (t : Tool) (words : List String) : Request :=
  match t, words with
  | suite, word :: rest =>
    match commands.find? (·.name = word) with
    | some command => command.requestAs (suite.name ++ "-" ++ command.name) rest
    | none =>
      if word = "help" then
        match rest with
        | [] => .help suite
        | name :: _ =>
          match commands.find? (·.name = name) with
          | some command => if rest.length = 1 then .help command else .misuse
          | none => .misuse
      else suite.requestAs suite.name words
  | _, _ => t.requestAs t.name words

end Tool

end PointsTo.Command

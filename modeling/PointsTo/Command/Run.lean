import PointsTo.HierarchyAnalysis
import PointsTo.Command.Job
import PointsTo.Description.Decode
import PointsTo.Pattern.Reader
import PointsTo.Solution
import PointsTo.Text.Printable

namespace PointsTo.Command

/-- What is found under a path. -/
inductive Found where
  | nothing
  | unreadable
  | bytes (content : List UInt8)

/-- The means by which a job reaches the outside. Writing can fail. -/
structure World (m : Type → Type) where
  read : (path : String) → m Found
  write : (path text : String) → m Bool
  print : (text : String) → m Unit
  report : Format → Line → m Unit

/-- Why a job failed. -/
inductive Failure where
  | badArguments (reason : String)
  | unwritable (path : String)
  | badPattern (text : String)
  | largePattern (text : String)
  | analysis (e : AnalysisError)
  | program (e : ProgramError)
deriving DecidableEq, Repr

def Failure.message : Failure → String
  | badArguments reason => s!"bad arguments: {reason}"
  | unwritable path => s!"{path} cannot be written"
  | badPattern text => s!"{Text.quote text} is not a pattern"
  | largePattern text => s!"the pattern {Text.quote text} is too large"
  | analysis e => e.message
  | program e => e.message

/-- How a tool ends. -/
inductive Exit where
  | done
  | misuse
  | failed (f : Failure)
deriving DecidableEq, Repr

def Exit.code : Exit → UInt32
  | done => 0
  | failed _ => 1
  | misuse => 2

def versionNumber : String := "0.4.0"

/-- A text in bold, or in a color, on a terminal. -/
def styled (style text : String) : String := "\x1b[" ++ style ++ "m" ++ text ++ "\x1b[0m"

/-- The variables that point to something, each with the objects that it can point to. -/
def dumpText (r : Solution) (showsMethod showsVar : String → Bool) : String :=
  let p := r.program
  let methods := r.plainCalls.reachable.toList.filter fun m => showsMethod (p.methodLabel m)
  String.join <| methods.flatMap fun m =>
    let vars := (p.methodDecl m).vars.toList.filter fun v => showsVar (p.varDecl v).name
    vars.map fun v =>
      match r.varPointees v with
      | [] => ""
      | objects =>
        styled "34" (p.methodLabel m) ++ "/" ++ styled "1;32" (p.varDecl v).name ++ "\n" ++
          String.join (objects.map fun o => "    " ++ r.objectLabel o ++ "\n")

/-- One line for each option of a tool, and for each command of the suite. -/
def helpText (t : Tool) : String :=
  let option (o : Opt) :=
    let letter := match o.letter with
      | some c => "-" ++ String.singleton c ++ ", "
      | none => "    "
    let value := if o.role = .value then s!" <{o.name}>" else ""
    s!"  {letter}--{o.name}{value}\n"
  let command (t : Tool) := s!"  {t.name}\n"
  let commands := if t = .suite then Tool.commands.map command else []
  s!"Usage: {t.name}\n" ++ String.join (commands ++ t.options.map option)

/-- The words that a shell can complete after the name of the suite. -/
def completionText : String := String.join (Tool.commands.map fun t => t.name ++ "\n")

variable {m : Type → Type} [Monad m]

/-- A piece of a job, which can fail. -/
abbrev Work (m : Type → Type) := ExceptT Failure m

section

variable (w : World m)

def reportAll (c : Common) (lines : Journal) : Work m Unit :=
  (lines.filter (·.shownAt c.level)).forM fun line => w.report c.format line

def orAnalysisFailure {α : Type} : Except AnalysisError α → Work m α
  | .ok a => return a
  | .error e => throw (.analysis e)

def loadInput (c : Common) : Work m Program := do
  reportAll w c [⟨.debug, s!"loading program from {c.input}"⟩]
  match ← w.read c.input with
  | .nothing => throw (.program .unreadableFile)
  | .unreadable => throw (.program (.json .brokenInput))
  | .bytes bytes =>
    let (result, lines) := Program.load bytes
    reportAll w c lines
    match result with
    | .ok p => return p
    | .error e => throw (.program e)

def save (c : Common) (what path text : String) : Work m Unit := do
  if ← w.write path text then
    reportAll w c [⟨.info, s!"{what} written in {Text.quote path}"⟩]
  else
    throw (.unwritable path)

/-- Saves what is asked for under the path given, if there is one. -/
def saveAt (c : Common) (what : String) (path? : Option String) (text : Unit → String) :
    Work m Unit :=
  match path? with
  | none => return
  | some path => save w c what path (text ())

/-- The test that a filter stands for. Without one everything passes. -/
def filterTest : Option String → Work m (String → Bool)
  | none => return fun _ => true
  | some text =>
    match Pattern.parse text with
    | .ok pattern => return pattern.isMatch
    | .error .malformed => throw (.badPattern text)
    | .error .tooLarge => throw (.largePattern text)

def runHierarchy (c : Common) (listMissing : Bool) : Work m Unit := do
  let p ← loadInput w c
  if listMissing then
    w.print (String.join (p.undefinedClasses.map (· ++ "\n")))
  reportAll w c [⟨.info,
    s!"hierarchy contains {p.counters.classes.count} classes and {p.hierarchy.links.size} links"⟩]
  saveAt w c "dot output" c.output fun _ => p.hierarchyDot

def runCha (c : Common) (methods : Option String) : Work m Unit := do
  let p ← loadInput w c
  let showsMethod ← filterTest methods
  match methods with
  | none => pure ()
  | some text =>
    reportAll w c [⟨.debug,
      s!"filtering callgraph on method pattern Regex({Text.quote text})"⟩]
  let (result, lines) := p.chaCallGraph
  reportAll w c lines
  let whole ← orAnalysisFailure result
  let g := if methods.isNone then whole else whole.filter fun m => showsMethod (p.methodLabel m)
  reportAll w c [⟨.info,
    s!"callgraph contains {g.reachable.size} methods and {g.edges.size} edges"⟩]
  saveAt w c "dot output" c.output fun _ => g.dot p.methodLabel

def runPta (c : Common) (o : PtaSettings) : Work m Unit := do
  let p ← loadInput w c
  let π ← orAnalysisFailure (Policy.parse o.context)
  let (result, lines) := analyze p π
  reportAll w c lines
  let r ← orAnalysisFailure result
  reportAll w c (r.stats.lines.map fun line => ⟨.info, line⟩)
  let showsMethod ← filterTest o.methods
  let showsVar ← filterTest o.vars
  saveAt w c "call graph" c.output fun _ =>
    if o.withContexts then
      (r.calls.filter fun m => showsMethod (p.methodLabel m.id)).dot r.methodLabel
    else (r.plainCalls.filter fun m => showsMethod (p.methodLabel m)).dot p.methodLabel
  saveAt w c "pointer flow graph" o.flowOutput fun _ => r.flowDot
  if o.dump then
    w.print (dumpText r showsMethod showsVar)

def runJob : Job → Work m Unit
  | .cha c methods => runCha w c methods
  | .hierarchy c listMissing => runHierarchy w c listMissing
  | .pta c o => runPta w c o
  | .completions _ => w.print completionText

/-- Runs a tool on the words after its name. -/
def run (t : Tool) (words : List String) : m Exit := do
  match t.request words with
  | .help t => w.print (helpText t); return .done
  | .version title => w.print s!"{title} {versionNumber}\n"; return .done
  | .misuse => return .misuse
  | .noCommand => return .failed (.badArguments "missing subcommand")
  | .job job =>
    match ← (runJob w job).run with
    | .ok () => return .done
    | .error f => return .failed f

end

end PointsTo.Command

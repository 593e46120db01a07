import PointsTo.Text.Split

namespace PointsTo.Command

/-- What an option is for. -/
inductive Opt.Role where
  | switch
  | value
  | help
  | version
deriving DecidableEq, Repr

structure Opt where
  name : String
  letter : Option Char := none
  role : Opt.Role := .value
  /-- The values that can be given, if not any. -/
  choices : Option (List String) := none
deriving DecidableEq, Repr

/-- Why the words of a command line ask for no work. -/
inductive Stop where
  | help
  | version
  | misuse
deriving DecidableEq, Repr

/-- The options given so far, each with its value. A switch has an empty one. -/
abbrev Given := List (String × String)

namespace Given

def add (given : Given) (o : Opt) (value : String) : Except Stop Given :=
  if (given.lookup o.name).isSome || !o.choices.all (·.contains value) then .error .misuse
  else .ok ((o.name, value) :: given)

def has (given : Given) (name : String) : Bool := (given.lookup name).isSome

/-- Takes note of an option that comes without a value. -/
def addBare (given : Given) (o : Opt) : Except Stop Given :=
  match o.role with
  | .switch => given.add o ""
  | .value => .error .misuse
  | .help => .error .help
  | .version => .error .version

/-- Reads what stands behind a single hyphen. An option that still needs its value is given back. -/
def readLetters (opts : List Opt) (given : Given) :
    List Char → Except Stop (Given × Option Opt)
  | [] => .ok (given, none)
  | c :: cs =>
    match opts.find? (·.letter = some c) with
    | none => .error .misuse
    | some o =>
      if o.role = .value then
        match cs with
        | [] => .ok (given, some o)
        | '=' :: cs => return (← given.add o (String.ofList cs), none)
        | cs => return (← given.add o (String.ofList cs), none)
      else do
        readLetters opts (← given.addBare o) cs

/-- Reads what stands behind two hyphens. -/
def readName (opts : List Opt) (given : Given) (cs : List Char) :
    Except Stop (Given × Option Opt) :=
  let (name, value?) := match Text.splitFirst '=' cs with
    | some (name, value) => (name, some value)
    | none => (cs, none)
  match opts.find? (·.name = String.ofList name), value? with
  | none, _ => .error .misuse
  | some o, none =>
    if o.role = .value then .ok (given, some o) else return (← given.addBare o, none)
  | some o, some value =>
    if o.role = .value then return (← given.add o (String.ofList value), none) else .error .misuse

def readWord (opts : List Opt) (given : Given) (word : String) :
    Except Stop (Given × Option Opt) :=
  match word.toList with
  | '-' :: '-' :: cs => given.readName opts cs
  | '-' :: c :: cs => given.readLetters opts (c :: cs)
  | _ => .error .misuse

/-- Whether a word stands for options, so that it is nobody's value. -/
def isOption (word : String) : Bool :=
  match word.toList with
  | '-' :: _ :: _ => true
  | _ => false

/-- Reads words to the end. Two hyphens end the options, and nothing can follow them. -/
def readWords (opts : List Opt) (given : Given) : List String → Except Stop Given
  | [] => .ok given
  | word :: words =>
    if word = "--" then
      if words.isEmpty then .ok given else .error .misuse
    else
      match given.readWord opts word with
      | .error stop => .error stop
      | .ok (given, none) => readWords opts given words
      | .ok (given, some o) =>
        match words with
        | [] => .error .misuse
        | value :: words =>
          if isOption value then .error .misuse
          else
            match given.add o value with
            | .error stop => .error stop
            | .ok given => readWords opts given words

end Given

end PointsTo.Command

import PointsTo.Json.Reader

namespace PointsTo.Json

/-- A JSON value. Numbers are told apart from other values, and that is all that is known of
them. -/
inductive Value where
  | null
  | bool (b : Bool)
  | number
  | string (s : String)
  | list (items : List Value)
  | object (fields : List (String × Value))
deriving Inhabited

namespace Value

open Reader

def readFields (value : Reader Value) : Reader (List (String × Value)) := do
  let fields ← names (fun name fields => do
    colon
    return (name, ← value) :: fields) []
  return fields.reverse

/-- A value, given how to read the values inside it; without that, it cannot have any. -/
def readUsing (inner : Option (Reader Value)) : Reader Value := do
  match ← peek with
  | none => throw .endOfText
  | some c =>
    match c, inner with
    | 'n', _ => drop; word "ull"; return null
    | 't', _ => drop; word "rue"; return bool true
    | 'f', _ => drop; word "alse"; return bool false
    | '"', _ => return string (← Reader.string)
    | '[', some value => drop; return list (← items value true)
    | '\x7b', some value => drop; return object (← readFields value)
    | c, _ => if c = '-' || c.isDigit then Reader.number; return number else throw .syntaxError

/-- A value with at most `depth` levels of brackets. -/
def readWithin : (depth : Nat) → Reader Value
  | 0 => readUsing none
  | depth + 1 => readUsing (some (readWithin depth))

def read : Reader Value := do readWithin (← ReaderT.read).depth

def text? : Value → Option String
  | string s => some s
  | _ => none

/-- A text or null. -/
def nullableText? : Value → Option (Option String)
  | null => some none
  | string s => some (some s)
  | _ => none

def texts? : Value → Option (List String)
  | list items => items.mapM text?
  | _ => none

end Value

end PointsTo.Json

import PointsTo.Json.Number
import PointsTo.Json.Text

/-!
Reading JSON from left to right into data of a known shape. The first fault decides: a value of the
wrong shape is refused where it starts, a field that is not known or given twice at its name, and a
missing field at the end of its record.
-/
namespace PointsTo.Json

/-- How deep a text may still be nested, and a bound on the items of a list or record and on the
length of a string. -/
structure Bounds where
  depth : Nat
  items : Nat

abbrev Reader := ReaderT Bounds (StateT (List UInt8) (Except Fault))

namespace Reader

variable {α σ : Type}

def isBlank (b : UInt8) : Bool :=
  b = ' '.toUInt8 || b = '\n'.toUInt8 || b = '\t'.toUInt8 || b = '\r'.toUInt8

/-- The byte after any blanks, which stays unread. -/
def peek : Reader (Option Char) := do
  let bs := (← get).dropWhile isBlank
  set bs
  return bs.head?.map fun b => Char.ofNat b.toNat

/-- Drops the byte that was looked at. -/
def drop : Reader Unit := modify fun (bs : List UInt8) => bs.tail

/-- Runs a scanner on the text that is left. -/
def scan (f : List UInt8 → Except Fault (α × List UInt8)) : Reader α := do
  match f (← get) with
  | .ok (a, rest) => set rest; return a
  | .error fault => throw fault

/-- The rest of a word, byte by byte. -/
def word (w : String) : Reader Unit :=
  w.toList.forM fun c => scan fun bs => return ((), ← expectByte c bs)

/-- A string whose opening quote comes next. -/
def string : Reader String := do
  drop
  let bounds ← read
  scan (readString bounds.items)

def number : Reader Unit := scan fun bs => return ((), ← skipNumber bs)

/-- Refuses the value that comes next for its shape, unless it is no value at all. -/
def mismatch : Reader α := do
  match ← peek with
  | none => throw .endOfText
  | some c =>
    match c with
    | 'n' => drop; word "ull"
    | 't' => drop; word "rue"
    | 'f' => drop; word "alse"
    | '"' => discard string
    | '[' | '\x7b' => pure ()
    | _ => if c = '-' || c.isDigit then number else throw .syntaxError
    throw .wrongShape

/-- Reads what stands between brackets. -/
def nested (r : Reader α) : Reader α := do
  match (← read).depth with
  | 0 => throw .syntaxError
  | depth + 1 => withReader (fun b => { b with depth }) (do drop; r)

/-- Whether a list goes on. The comma between two items is read. -/
def moreItems (first : Bool) : Reader Bool := do
  match ← peek with
  | none => throw .endOfText
  | some ']' => return false
  | some c =>
    if first then
      return true
    if c ≠ ',' then
      throw .syntaxError
    drop
    match ← peek with
    | none => throw .endOfText
    | some ']' => throw .syntaxError
    | some _ => return true

/-- The closing bracket of a list. -/
def closeList : Reader Unit := do
  match ← peek with
  | none => throw .endOfText
  | some ']' => drop
  | some _ => throw .syntaxError

def itemsFrom (item : Reader α) : (fuel : Nat) → (first : Bool) → Reader (List α)
  | 0, _ => throw .syntaxError
  | fuel + 1, first => do
    if ← moreItems first then
      let a ← item
      return a :: (← itemsFrom item fuel false)
    else
      return []

/-- The items that are left in a list, up to its closing bracket. -/
def items (item : Reader α) (first : Bool) : Reader (List α) := do
  let as ← itemsFrom item (← read).items first
  closeList
  return as

/-- The next name in a record, if it goes on. The comma before it is read. -/
def nextName (first : Bool) : Reader (Option String) := do
  match ← peek with
  | none => throw .endOfText
  | some '\x7d' => return none
  | some c =>
    if first then
      if c = '"' then return some (← string) else throw .syntaxError
    if c ≠ ',' then
      throw .syntaxError
    drop
    match ← peek with
    | none => throw .endOfText
    | some '"' => return some (← string)
    | some _ => throw .syntaxError

/-- The colon between a name and its value. -/
def colon : Reader Unit := do
  match ← peek with
  | none => throw .endOfText
  | some ':' => drop
  | some _ => throw .syntaxError

def namesFrom (field : String → σ → Reader σ) : (fuel : Nat) → (first : Bool) → σ → Reader σ
  | 0, _, _ => throw .syntaxError
  | fuel + 1, first, s => do
    match ← nextName first with
    | none => return s
    | some name => namesFrom field fuel false (← field name s)

/-- Passes a state through the fields of a record, from after its opening brace to its closing
one. -/
def names (field : String → σ → Reader σ) (s : σ) : Reader σ := do
  let s ← namesFrom field (← read).items true s
  drop
  return s

/-- A string. -/
def text : Reader String := do
  match ← peek with
  | some '"' => string
  | _ => mismatch

def flag : Reader Bool := do
  match ← peek with
  | some 't' => drop; word "rue"; return true
  | some 'f' => drop; word "alse"; return false
  | _ => mismatch

def list (item : Reader α) : Reader (List α) := do
  match ← peek with
  | some '[' => nested (items item true)
  | _ => mismatch

def nullable (r : Reader α) : Reader (Option α) := do
  match ← peek with
  | some 'n' => drop; word "ull"; return none
  | _ => return some (← r)

/-- Whether a field of a record has to be given. A `nullable` field can be left out of a record
that names its fields, a `defaulted` one also at the end of a record that lists them. -/
inductive Presence where
  | required | nullable | defaulted
deriving DecidableEq

/-- A field of a record: reading its value gives what to do with the record. -/
structure Field (σ : Type) where
  name : String
  presence : Presence
  value : Reader (σ → σ)

namespace Field

def required (name : String) (r : Reader α) (put : α → σ → σ) : Field σ :=
  ⟨name, .required, return put (← r)⟩

def nullable (name : String) (r : Reader α) (put : Option α → σ → σ) : Field σ :=
  ⟨name, .nullable, return put (← Reader.nullable r)⟩

def defaulted (name : String) (r : Reader α) (put : α → σ → σ) : Field σ :=
  ⟨name, .defaulted, return put (← r)⟩

end Field

/-- A record that lists its fields in order. -/
def listed : List (Field σ) → (first : Bool) → σ → Reader σ
  | [], _, s => return s
  | f :: fs, first, s => do
    if ← moreItems first then
      listed fs false ((← f.value) s)
    else if f.presence = .defaulted then
      listed fs first s
    else
      throw .wrongShape

/-- A record that names its fields. -/
def named (fields : List (Field σ)) (s : σ) : Reader σ := do
  let (s, seen) ← names (fun name (s, seen) => do
    match fields.find? (·.name = name) with
    | none => throw .wrongShape
    | some f =>
      if name ∈ seen then
        throw .wrongShape
      colon
      return ((← f.value) s, name :: seen)) (s, [])
  if fields.all fun f => f.presence ≠ .required || f.name ∈ seen then
    return s
  else
    throw .wrongShape

/-- A record, starting from what it is without any field. -/
def record (fields : List (Field σ)) (s : σ) : Reader σ := do
  match ← peek with
  | some '[' => nested do
    let s ← listed fields true s
    closeList
    return s
  | some '\x7b' => nested (named fields s)
  | _ => mismatch

/-- How many levels of brackets a text can have. -/
def maxDepth : Nat := 127

/-- Reads a whole text. -/
def run (r : Reader α) (bytes : List UInt8) : Except Fault α := do
  let (a, rest) ← (do let a ← r; let _ ← peek; return a : Reader α) ⟨maxDepth, bytes.length⟩ bytes
  if rest.isEmpty then return a else throw .syntaxError

end Reader

end PointsTo.Json

import PointsTo.Description.Build
import PointsTo.Json.Value

namespace PointsTo.Description

open Json Json.Reader

/-- What a statement is read into before its fields are looked at. -/
inductive Content where
  | named (fields : List (String × Value))
  | listed (items : List Value)

/-- The fields of each form of statement, in order. -/
def stmtFields : List (String × List String) :=
  [("new", ["target", "type"]),
   ("copy", ["target", "source"]),
   ("load", ["target", "base", "field"]),
   ("store", ["base", "field", "source"]),
   ("array_load", ["target", "array", "index"]),
   ("array_store", ["array", "index", "source"]),
   ("invoke", ["kind", "method", "receiver", "args", "result"]),
   ("return", ["value"])]

namespace Content

/-- The values of the given fields, each of which can be there once. A statement that lists its
fields lists them all. -/
def fields? (names : List String) : Content → Option (List (String × Value))
  | named fields =>
    let known := fields.filter (·.1 ∈ names)
    if (known.map (·.1)).Nodup then some known else none
  | listed items => if items.length = names.length then some (names.zip items) else none

end Content

/-- A call kind is a word, or a record with the word as its only field and nothing in it. -/
def kind? : Value → Option CallKind
  | .string s => CallKind.ofText? s
  | .object [(s, .null)] | .object [(s, .object [])] => CallKind.ofText? s
  | _ => none

/-- The statement with the given `op` and fields. -/
def Stmt.ofFields? (op : String) (fields : List (String × Value)) : Option Stmt :=
  let text (name : String) : Option String := do (← fields.lookup name).text?
  let nullable (name : String) : Option (Option String) :=
    match fields.lookup name with
    | none => some none
    | some v => v.nullableText?
  match op with
  | "new" => return .new (← text "target") (← text "type")
  | "copy" => return .copy (← text "target") (← text "source")
  | "load" => return .load (← text "target") (← nullable "base") (← text "field")
  | "store" => return .store (← nullable "base") (← text "field") (← text "source")
  | "array_load" => return .arrayLoad (← text "target") (← text "array") (← text "index")
  | "array_store" => return .arrayStore (← text "array") (← text "index") (← text "source")
  | "invoke" => do
    let kind ← kind? (← fields.lookup "kind")
    let args ← match fields.lookup "args" with
      | none => some []
      | some v => v.texts?
    return .invoke kind (← text "method") (← nullable "receiver") args (← nullable "result")
  | "return" => return .ret (← nullable "value")
  | _ => none

/-- The word that says what a statement is. -/
def readOp : Reader String := do
  let op ← text
  if (stmtFields.lookup op).isSome then return op else throw .wrongShape

def readNamedStmt : Reader (Option String × Content) := do
  let (op, fields) ← names (fun name (op, fields) => do
    if name = "op" then
      if op.isSome then
        throw .wrongShape
      colon
      return (some (← readOp), fields)
    else
      colon
      return (op, (name, ← Value.read) :: fields)) (none, [])
  return (op, .named fields.reverse)

def readListedStmt : Reader (Option String × Content) := do
  if ← moreItems true then
    let op ← readOp
    return (some op, .listed (← items Value.read false))
  else
    throw .wrongShape

def readStmt : Reader Stmt := do
  let (op, content) ← match ← peek with
    | some '\x7b' => nested readNamedStmt
    | some '[' => nested readListedStmt
    | _ => mismatch
  let stmt? := do
    let op ← op
    Stmt.ofFields? op (← content.fields? (← stmtFields.lookup op))
  match stmt? with
  | some stmt => return stmt
  | none => throw .wrongShape

def readLocal : Reader Local :=
  record
    [.required "name" text fun name l => { l with name },
     .required "type" text fun type l => { l with type }] {}

def readMethod : Reader Method :=
  record
    [.required "signature" text fun signature m => { m with signature },
     .defaulted "static" flag fun isStatic m => { m with isStatic },
     .defaulted "abstract" flag fun isAbstract m => { m with isAbstract },
     .defaulted "native" flag fun isNative m => { m with isNative },
     .defaulted "params" (list text) fun params m => { m with params },
     .defaulted "locals" (list readLocal) fun locals m => { m with locals },
     .defaulted "body" (list readStmt) fun body m => { m with body }] {}

def readField : Reader Field :=
  record
    [.required "name" text fun name f => { f with name },
     .required "type" text fun type f => { f with type },
     .defaulted "static" flag fun isStatic f => { f with isStatic }] {}

def readClass : Reader Class :=
  record
    [.required "name" text fun name c => { c with name },
     .nullable "superclass" text fun superclass c => { c with superclass },
     .defaulted "interfaces" (list text) fun interfaces c => { c with interfaces },
     .defaulted "interface" flag fun isInterface c => { c with isInterface },
     .defaulted "abstract" flag fun isAbstract c => { c with isAbstract },
     .defaulted "fields" (list readField) fun fields c => { c with fields },
     .defaulted "methods" (list readMethod) fun methods c => { c with methods }] {}

def readEntry : Reader Entry :=
  record
    [.required "class" text fun cls e => { e with cls },
     .required "method" text fun method e => { e with method }] {}

def readDescription : Reader Description :=
  record
    [.nullable "entry" readEntry fun entry d => { d with entry },
     .required "classes" (list readClass) fun classes d => { d with classes }] {}

/-- The description in a JSON text. -/
def decode (bytes : List UInt8) : Except Fault Description := readDescription.run bytes

end PointsTo.Description

namespace PointsTo.Program

/-- The program that a JSON text describes, with what was reported on the way. -/
def load (bytes : List UInt8) : Except ProgramError Program × Journal :=
  match Description.decode bytes with
  | .error fault => (.error (.json fault), [])
  | .ok d =>
    let (result, b) := (d.build).run.run {}
    (result, b.journal)

end PointsTo.Program

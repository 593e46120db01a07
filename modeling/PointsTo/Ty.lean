import PointsTo.Text.Split

/-!
Type descriptors: a letter for each primitive type, `Lname;` for a class and one `[` for each
dimension of an array. `Ty.text` writes a descriptor and `Ty.parse?` reads one.
-/
namespace PointsTo

inductive Prim where
  | boolean | byte | short | char | int | long | float | double
deriving DecidableEq, Repr

/-- Types of variables, fields and method signatures. `void` is a return type only; an array has a
number of dimensions over an element type. -/
inductive Ty where
  | void
  | prim (p : Prim)
  | array (dims : Nat) (elem : Ty)
  | ref (name : String)
deriving DecidableEq, Repr, Inhabited

namespace Prim

def all : List Prim := [boolean, byte, short, char, int, long, float, double]

def letter : Prim → Char
  | boolean => 'Z' | byte => 'B' | short => 'S' | char => 'C'
  | int => 'I' | long => 'J' | float => 'F' | double => 'D'

def name : Prim → String
  | boolean => "boolean" | byte => "byte" | short => "short" | char => "char"
  | int => "int" | long => "long" | float => "float" | double => "double"

def ofLetter? (c : Char) : Option Prim := all.find? (·.letter = c)

def rank : Prim → Nat
  | boolean => 0 | byte => 1 | short => 2 | char => 3
  | int => 4 | long => 5 | float => 6 | double => 7

end Prim

namespace Ty

/-- The descriptor as a list of characters. -/
def chars : Ty → List Char
  | void => ['V']
  | prim p => [p.letter]
  | array dims elem => List.replicate dims '[' ++ elem.chars
  | ref name => 'L' :: name.toList ++ [';']

/-- The descriptor. -/
def text (t : Ty) : String := String.ofList t.chars

/-- The type as it is written in source code. -/
def sourceText : Ty → String
  | void => "void"
  | prim p => p.name
  | array dims elem => elem.sourceText ++ String.join (List.replicate dims "[]")
  | ref name => String.ofList (name.toList.map fun c => if c = '/' then '.' else c)

/-- Whether values of the type are references, so that they can be allocated. -/
def isReference : Ty → Bool
  | array .. | ref _ => true
  | void | prim _ => false

def className? : Ty → Option String
  | ref name => some name
  | _ => none

/-- A descriptor may have at most 254 dimensions. -/
def maxDims : Nat := 254

def withDims : Nat → Ty → Ty
  | 0, t => t
  | dims + 1, t => array (dims + 1) t

/-- The element type at the front of a text, below `dims` dimensions, with the rest of the text. -/
def readElem? (dims : Nat) : List Char → Option (Ty × List Char)
  | [] => none
  | 'V' :: rest => if dims = 0 then some (void, rest) else none
  | 'L' :: rest =>
    match Text.splitFirst ';' rest with
    | some (c :: name, rest) => some (ref (String.ofList (c :: name)), rest)
    | _ => none
  | c :: rest => (Prim.ofLetter? c).map fun p => (prim p, rest)

/-- The descriptor at the front of a text, with the rest of the text. -/
def readFront? (s : List Char) : Option (Ty × List Char) :=
  let dims := (s.takeWhile (· = '[')).length
  if maxDims < dims then none
  else (readElem? dims (s.drop dims)).map fun (t, rest) => (withDims dims t, rest)

/-- The type that a whole text describes. -/
def parse? (s : String) : Option Ty :=
  match readFront? s.toList with
  | some (t, []) => some t
  | _ => none

/-- All descriptors of a text, in order. Each takes at least one character, so that `fuel` is
enough once it reaches the length of the text. -/
def readAllWithin : (fuel : Nat) → List Char → Option (List Ty)
  | _, [] => some []
  | 0, _ :: _ => none
  | fuel + 1, s =>
    match readFront? s with
    | some (t, rest) => (readAllWithin fuel rest).map (t :: ·)
    | none => none

/-- The types that a text describes one after the other. -/
def readAll? (s : List Char) : Option (List Ty) := readAllWithin s.length s

def rank : Ty → Nat
  | void => 0
  | prim p => p.rank + 1
  | array .. => 9
  | ref _ => 10

/-- Primitive types come first, then arrays by dimensions and element, then classes by name. -/
protected def cmp : Ty → Ty → Ordering
  | array m a, array n b => (compare m n).then (a.cmp b)
  | ref a, ref b => compare a b
  | a, b => compare a.rank b.rank

instance : Ord Ty := ⟨Ty.cmp⟩

end Ty

end PointsTo

import PointsTo.Stmt
import PointsTo.Text.Split

namespace PointsTo

/-- A member of a class, named with its signature if it is a method. -/
structure MemberRef where
  cls : String
  member : String
deriving DecidableEq, Repr

namespace MemberRef

def text (r : MemberRef) : String := r.cls ++ "." ++ r.member

/-- Splits a reference at the last dot before any parenthesis. -/
def parse? (s : String) : Option MemberRef :=
  let cs := s.toList
  let head := cs.takeWhile (· ≠ '(')
  (Text.splitLast '.' head).map fun (cls, name) =>
    ⟨String.ofList cls, String.ofList (name ++ cs.drop head.length)⟩

end MemberRef

namespace Description

/-- A statement, with variables by name. -/
inductive Stmt where
  | new (target type : String)
  | copy (target source : String)
  | load (target : String) (base : Option String) (field : String)
  | store (base : Option String) (field source : String)
  | arrayLoad (target array index : String)
  | arrayStore (array index source : String)
  | invoke (kind : CallKind) (method : String) (receiver : Option String) (args : List String)
      (result : Option String)
  | ret (value : Option String)
deriving DecidableEq, Repr

structure Local where
  name : String := ""
  type : String := ""
deriving DecidableEq, Repr

structure Method where
  signature : String := ""
  isStatic : Bool := false
  isAbstract : Bool := false
  isNative : Bool := false
  /-- The names of the parameters; if there is none, they are named by position. -/
  params : List String := []
  locals : List Local := []
  body : List Stmt := []
deriving DecidableEq, Repr

structure Field where
  name : String := ""
  type : String := ""
  isStatic : Bool := false
deriving DecidableEq, Repr

structure Class where
  name : String := ""
  superclass : Option String := none
  interfaces : List String := []
  isInterface : Bool := false
  isAbstract : Bool := false
  fields : List Field := []
  methods : List Method := []
deriving DecidableEq, Repr

structure Entry where
  cls : String := ""
  method : String := ""
deriving DecidableEq, Repr

end Description

end PointsTo

namespace PointsTo

structure Description where
  entry : Option Description.Entry := none
  classes : List Description.Class := []
deriving DecidableEq, Repr

end PointsTo

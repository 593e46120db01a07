namespace PointsTo

/-- How much a reader must want to know to be told, from the least on. -/
inductive Level where
  | warn | info | debug | trace
deriving DecidableEq, Repr

namespace Level

def text : Level → String
  | warn => "WARN" | info => "INFO" | debug => "DEBUG" | trace => "TRACE"

def rank : Level → Nat
  | warn => 0 | info => 1 | debug => 2 | trace => 3

end Level

/-- One reported line. -/
structure Line where
  level : Level
  message : String
deriving DecidableEq, Repr

namespace Line

def text (l : Line) : String := l.level.text ++ " " ++ l.message

/-- Whether the line is shown to a reader who wants lines up to `level`. -/
def shownAt (level : Level) (l : Line) : Bool := l.level.rank ≤ level.rank

end Line

/-- The lines reported so far, oldest first. -/
abbrev Journal := List Line

end PointsTo

import PointsTo.Stmt

namespace PointsTo

/-- Methods, classes and statements are named as they are shown. The first five arise only from
questions about statements of the wrong form: an analysis never fails with them. -/
inductive AnalysisError where
  | notACall (site : String)
  | notAnAllocation (site : String)
  | primitiveAllocation (type : Ty)
  | unknownClass (name : String)
  | outOfSteps
  | noEntryMethod
  | methodNotFound (method : String)
  | unresolvedDispatch (site receiver : String) (signature : Signature)
  | unrecognizedKind (site : String) (kind : CallKind)
  | invalidSensitivity (text : String)
deriving DecidableEq, Repr

namespace AnalysisError

def message : AnalysisError → String
  | notACall site => s!"internal error: {site} is not a call site"
  | notAnAllocation site => s!"internal error: {site} is not an allocation site"
  | primitiveAllocation type => s!"internal error: allocation of primitive type {type.text}"
  | unknownClass name => s!"program error: class not found: {name}"
  | outOfSteps => "internal error: the step bound is too small"
  | noEntryMethod => "the program has no entry method"
  | methodNotFound method => s!"method not found: {method}"
  | unresolvedDispatch site receiver signature =>
    s!"cannot dispatch {signature.text} on {receiver} at {site}"
  | unrecognizedKind site kind => s!"unrecognized call kind '{kind.text}' at {site}"
  | invalidSensitivity text => s!"invalid context sensitivity: {text}"

end AnalysisError

end PointsTo

import PointsTo.Command.Run
import PointsTo.Json.Text

namespace PointsTo.Command

/-- How a reported line is shown. -/
def showLine : Format → Line → String
  | .plain, l => s!"[{l.level.text}] {l.message}"
  | .structured, l =>
    let level := Json.quote l.level.text
    let message := Json.quote l.message
    "\x7b\"log.level\":" ++ level ++ ",\"message\":" ++ message ++ "\x7d"

def files : World IO where
  read path := do
    match ← (IO.FS.Handle.mk path .read).toBaseIO with
    | .error _ => return .nothing
    | .ok file =>
      match ← file.readBinToEnd.toBaseIO with
      | .error _ => return .unreadable
      | .ok content => return .bytes content.toList
  write path text := do
    try
      IO.FS.writeFile path text
      return true
    catch _ => return false
  print text := IO.print text
  report format line := IO.eprintln (showLine format line)

end PointsTo.Command

open PointsTo.Command in
def main (words : List String) : IO UInt32 := do
  let exit ← run files .suite words
  match exit with
  | .failed f => IO.eprintln s!"Error: {f.message}"
  | .misuse => IO.eprint (helpText .suite)
  | .done => pure ()
  return exit.code

/-!
# Showing progress

A reporter takes the lines that a run prints.  It either keeps them for a caller to look at or
hands them to standard output; a progress bar, where there is one, is drawn elsewhere and changes
neither.
-/

namespace HourlyIngest

/-- What a reporter does with its lines. -/
inductive ReporterKind where
  | capturing
  | printing
deriving DecidableEq, Repr

/-- A reporter with what it has kept and what it has printed. -/
structure Reporter where
  kind : ReporterKind
  lines : List String := []
  printed : String := ""
deriving DecidableEq, Repr

namespace Reporter

/-- Take one line. -/
def write (reporter : Reporter) (text : String) : Reporter :=
  match reporter.kind with
  | .capturing => { reporter with lines := reporter.lines ++ [text] }
  | .printing => { reporter with printed := reporter.printed ++ text ++ "\n" }

def writeAll (reporter : Reporter) (texts : List String) : Reporter :=
  texts.foldl write reporter

end Reporter

end HourlyIngest

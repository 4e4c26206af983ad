import GemOrder.Diff.Unified
import GemOrder.Error
import GemOrder.Trace

namespace GemOrder

/-- What becomes of a sorted text: it is written to its file, only compared, printed, or printed as a
difference. -/
inductive Mode where
  | write
  | check
  | stdout
  | diff
deriving DecidableEq

inductive Outcome where
  | alreadySorted
  | sorted
  | printed
deriving DecidableEq

namespace Outcome

def name : Outcome → String
  | .alreadySorted => "AlreadySorted"
  | .sorted => "Sorted"
  | .printed => "Printed"

end Outcome

/-- What a mode makes of a text and its sorted form: the outcome and what is printed. -/
def emit (label text sorted : String) (mode : Mode) : Except Error (Outcome × String) :=
  if mode = .stdout then .ok (.printed, sorted)
  else if text = sorted then .ok (.alreadySorted, "")
  else match mode with
    | .check => .error (.notSorted label)
    | .diff => .ok (.printed, Diff.unified label text sorted)
    | _ => .ok (.sorted, "")

/-- Sorts a text. There is no file to write to, so it is printed instead. -/
def processText (c : Config) (text : String) (mode : Mode) :
    Logged (Except Error (Outcome × String)) :=
  match c.vocabulary with
  | .error fault => pure (.error (.config fault))
  | .ok v =>
    ⟨v.sortEvents text, emit "<stdin>" text (v.sort text) (if mode = .write then .stdout else mode)⟩

end GemOrder

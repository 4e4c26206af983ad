import GemOrder.Text.Lower
import GemOrder.Vocabulary

namespace GemOrder

/-- The lines from number `start` up to and without number `stop`. -/
def slice (ls : List Line) (start stop : Nat) : List Line :=
  (ls.drop start).take (stop - start)

/-- The same if these numbers are a range of the lines. -/
def slice? (ls : List Line) (start stop : Nat) : Option (List Line) :=
  if start ≤ stop && stop ≤ ls.length then some (slice ls start stop) else none

/-- A run of blank lines and comments that opens with a comment. -/
def opensWithComment (formatting : List Line) : Bool :=
  formatting.head?.any (!·.isBlank)

/-- A declaration with what belongs to it: the blank lines and comments before it and the lines of its
statement. -/
structure Entry where
  name : Option (List Char)
  /-- The blank lines before everything else. -/
  blanks : List Line
  /-- The comments before the declaration, with the blank lines among them. -/
  formatting : List Line
  statement : List Line
deriving DecidableEq

namespace Entry

def new (name : Option (List Char)) (formatting statement : List Line) : Entry :=
  ⟨name, formatting.takeWhile Line.isBlank, formatting.dropWhile Line.isBlank, statement⟩

def lines (e : Entry) : List Line :=
  e.blanks ++ e.formatting ++ e.statement

/-- Entries are ordered by their names without regard to case. -/
def key (e : Entry) : Option (List Char) :=
  e.name.map Text.lower

/-- Names are ordered by the code points of their characters. -/
def nameLE : List Char → List Char → Bool
  | [], _ => true
  | _ :: _, [] => false
  | a :: as, b :: bs => if a == b then nameLE as bs else a.toNat < b.toNat

def keyLE : Option (List Char) → Option (List Char) → Bool
  | none, _ => true
  | some _, none => false
  | some a, some b => nameLE a b

def le (a b : Entry) : Bool :=
  keyLE a.key b.key

end Entry

/-- The lines from number `i` on that satisfy `p`, looking no further than `stop`. There are none if
the search comes to a line before `stop` that does not exist. -/
def linesWhile? (p : Line → Bool) (ls : List Line) (i stop : Nat) : Option (List Line) :=
  if i < stop then
    match ls[i]? with
    | none => none
    | some l => if p l then (linesWhile? p ls (i + 1) stop).map (l :: ·) else some []
  else some []
termination_by stop - i

/-- The number of the line behind the statement that opens at line `start`, looking no further than
`stop`. There is none if the search comes to a line before `stop` that does not exist. -/
def statementEnd? (v : Vocabulary) (ls : List Line) (start stop : Nat) : Option Nat := do
  let first ← ls[start]?
  let tail ← linesWhile? (v.continues first) ls (start + 1) stop
  return start + 1 + tail.length

end GemOrder

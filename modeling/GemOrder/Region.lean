import GemOrder.Entry

namespace GemOrder

/-- Declarations that follow each other with nothing but blank lines and comments between them. They
are put in order as a whole, or left as they are. -/
structure Region where
  /-- The number of its first line. -/
  start : Nat
  /-- The blank lines before the first entry, which stay in front. -/
  leading : List Line
  entries : List Entry
  /-- The blank lines and comments behind the last entry. -/
  trailing : List Line
  /-- A comment follows the last entry and nothing follows the comment, so that it may belong to
  either side. -/
  dangling : Bool
deriving DecidableEq

namespace Region

/-- Reads entries off the front of some lines, as many as there are. Gives them with the formatting
behind the last one and the lines that are left. -/
def scan (v : Vocabulary) (ls : List Line) : List Entry × List Line × List Line :=
  let formatting := ls.takeWhile v.isFormatting
  match _h : ls.dropWhile v.isFormatting with
  | [] => ([], formatting, [])
  | first :: rest =>
    if v.isDeclaration first then
      let (entries, trailing, left) := scan v (rest.dropWhile (v.continues first))
      (Entry.new (v.declaredName? first) formatting
        (first :: rest.takeWhile (v.continues first)) :: entries, trailing, left)
    else ([], formatting, first :: rest)
termination_by ls.length
decreasing_by
  have h₁ := (List.dropWhile_suffix v.isFormatting (l := ls)).length_le
  have h₂ := (List.dropWhile_suffix (v.continues first) (l := rest)).length_le
  rw [_h, List.length_cons] at h₁
  omega

/-- The first entry's blank lines are those of the region. -/
def takeBlanks : List Entry → List Line × List Entry
  | [] => ([], [])
  | e :: es => (e.blanks, { e with blanks := [] } :: es)

/-- Behind the last line of a range nothing can go on if the text or a scope ends there. -/
def endsAt (v : Vocabulary) (next : Option Line) : Bool :=
  next.all v.isCloser

/-- The region at the front of some lines, the first of which has number `start`; `next` is the line
behind them. -/
def read (v : Vocabulary) (start : Nat) (next : Option Line) (ls : List Line) : Region :=
  let (found, trailing, left) := scan v ls
  let (leading, entries) := takeBlanks found
  { start, leading, entries, trailing
    dangling := !entries.isEmpty && left.isEmpty && endsAt v next && opensWithComment trailing }

/-- The lines of a region in the order in which they were read. -/
def lines (r : Region) : List Line :=
  r.leading ++ r.entries.flatMap Entry.lines ++ r.trailing

/-- The number of the line behind a region. -/
def stop (r : Region) : Nat :=
  r.start + r.lines.length

def unnamed (r : Region) : Bool :=
  r.entries.any (·.name.isNone)

def unsortable (r : Region) : Bool :=
  r.unnamed || r.dangling

def sortable (r : Region) : Bool :=
  !r.unsortable && 1 < r.entries.length

/-- The lines of entries in their new order. The first one's blank lines go behind it, since the
region's leading lines stand in front of it already. -/
def arrange : List Entry → List Line
  | [] => []
  | e :: es => e.formatting ++ e.statement ++ e.blanks ++ es.flatMap Entry.lines

/-- The lines of a region with its entries in order; those of equal names keep their order. -/
def render (r : Region) : List Line :=
  if r.sortable then r.leading ++ arrange (r.entries.mergeSort Entry.le) ++ r.trailing
  else r.lines

/-- Reads entries from line `i` on, looking no further than `stop`. Gives them with the formatting
behind the last one and the number of the line where reading ends. Nothing can be read if the search
comes to a line before `stop` that does not exist. -/
def scanAt? (v : Vocabulary) (ls : List Line) (i stop : Nat) :
    Option (List Entry × List Line × Nat) := do
  let formatting ← linesWhile? v.isFormatting ls i stop
  let j := i + formatting.length
  if j < stop then
    let first ← ls[j]?
    if v.isDeclaration first then
      let tail ← linesWhile? (v.continues first) ls (j + 1) stop
      let (entries, trailing, last) ← scanAt? v ls (j + 1 + tail.length) stop
      return (Entry.new (v.declaredName? first) formatting (first :: tail) :: entries, trailing, last)
    else return ([], formatting, j)
  else return ([], formatting, j)
termination_by stop - i

/-- The region that starts at line `start`, looking no further than `stop`. There is none if the
search comes to a line before `stop` that does not exist. -/
def at? (v : Vocabulary) (ls : List Line) (start stop : Nat) : Option Region := do
  let (found, trailing, last) ← scanAt? v ls start stop
  let (leading, entries) := takeBlanks found
  return { start, leading, entries, trailing
           dangling := !entries.isEmpty && last == stop && endsAt v ls[stop]? &&
             opensWithComment trailing }

/-- The lines from `start` up to `stop` with the region at their front in order. There are none
if these numbers are no range of lines. -/
def sort? (v : Vocabulary) (ls : List Line) (start stop : Nat) : Option (List Line) := do
  let r ← at? v ls start stop
  let behind ← slice? ls r.stop stop
  return r.render ++ behind

end Region

end GemOrder

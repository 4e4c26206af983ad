import GemOrder.Region
import GemOrder.Scope

namespace GemOrder

/-- A part of a manifest: a region, or lines that stay as they are. -/
inductive Piece where
  | text (ls : List Line)
  | region (r : Region)

namespace Piece

def lines : Piece → List Line
  | .text ls => ls
  | .region r => r.lines

def render : Piece → List Line
  | .text ls => ls
  | .region r => r.render

def region? : Piece → Option Region
  | .text _ => none
  | .region r => some r

end Piece

namespace Sorter

/-- A declaration comes first, or comments and then a declaration. -/
def opensRegion (v : Vocabulary) (ls : List Line) : Bool :=
  (ls.dropWhile v.isComment).head?.any v.isDeclaration

/-- The pieces of lines that hold no scope, the first of which has number `i`; `next` is the line
behind them. -/
def runFrom (v : Vocabulary) (next : Option Line) (i : Nat) : List Line → List Piece
  | [] => []
  | l :: ls =>
    if opensRegion v (l :: ls) then
      let r := Region.read v i next (l :: ls)
      .region r :: runFrom v next r.stop (ls.drop (r.lines.length - 1))
    else .text [l] :: runFrom v next (i + 1) ls
termination_by ls => ls.length

def run (v : Vocabulary) (ls : List Line) (start stop : Nat) : List Piece :=
  runFrom v ls[stop]? start (slice ls start stop)

/-- The pieces of the lines from `start` up to `stop`, in which some scopes lie. -/
def span (v : Vocabulary) (ls : List Line) (start stop : Nat) : List Scope → List Piece
  | [] => run v ls start stop
  | ⟨header, closer, children⟩ :: scopes =>
    run v ls start header ++ .text (slice ls header (header + 1)) ::
      span v ls (header + 1) closer children ++ .text (slice ls closer (closer + 1)) ::
      span v ls (closer + 1) stop scopes

/-- The pieces of a manifest, in order. -/
def pieces (v : Vocabulary) (ls : List Line) : List Piece :=
  span v ls 0 ls.length (Scope.locate v ls)

/-- The regions of a manifest, in order. -/
def regions (v : Vocabulary) (ls : List Line) : List Region :=
  (pieces v ls).filterMap Piece.region?

def sortLines (v : Vocabulary) (ls : List Line) : List Line :=
  (pieces v ls).flatMap Piece.render

def sortText (v : Vocabulary) (text : List Char) : List Char :=
  let source := Source.split text
  source.join (sortLines v source.lines)

end Sorter

/-- The vocabulary of a configuration. There is one unless the configuration has a fault, however long
its words are. -/
def Config.vocabulary (c : Config) : Except Config.Fault Vocabulary :=
  match c.fault? with
  | some fault => .error fault
  | none => .ok (.ofConfig c)

namespace Vocabulary

def standard : Vocabulary :=
  .ofConfig {}

/-- The text of a manifest with every region in order. Without a newline it is a single line, which
stays as it is and is not taken apart, however long. -/
def sort (v : Vocabulary) (text : String) : String :=
  if text.contains '\n' then String.ofList (Sorter.sortText v text.toList) else text

end Vocabulary

end GemOrder

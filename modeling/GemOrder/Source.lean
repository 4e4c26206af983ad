import GemOrder.Text.Blank

namespace GemOrder

/-- The characters of a line, its terminator included. -/
abbrev Line := List Char

namespace Line

/-- How many spaces and tabs a line opens with. -/
def indent (l : Line) : Nat :=
  (l.takeWhile fun c => c == ' ' || c == '\t').length

def isBlank (l : Line) : Bool :=
  l.all Text.isBlank

/-- Cuts a text after each newline; `read` is what the current line holds so far, last character
first. -/
def cutFrom (read : List Char) : List Char → List Line
  | [] => if read.isEmpty then [] else [read.reverse]
  | c :: cs => if c == '\n' then (c :: read).reverse :: cutFrom [] cs else cutFrom (c :: read) cs

/-- Cuts a text after each newline. -/
def cut (text : List Char) : List Line :=
  cutFrom [] text

end Line

/-- A text as the list of its lines, each of which ends in a newline. What completes the last line is
taken away again when lines are joined. -/
structure Source where
  lines : List Line
  /-- What completed the last line; empty if it was terminated already. -/
  added : List Char

namespace Source

def hasCarriageReturn : List Char → Bool
  | [] => false
  | '\r' :: '\n' :: _ => true
  | _ :: cs => hasCarriageReturn cs

/-- What the last line of a text lacks: nothing, or the kind of newline that the text uses. -/
def missing (text : List Char) : List Char :=
  if text.isEmpty || text.getLast?.any (· == '\n') then []
  else if hasCarriageReturn text then ['\r', '\n']
  else ['\n']

def split (text : List Char) : Source :=
  ⟨Line.cut (text ++ missing text), missing text⟩

/-- The text of some lines, without the terminator that was added to the source. -/
def join (s : Source) (ls : List Line) : List Char :=
  let text := ls.flatten
  if s.added.isSuffixOf text then text.take (text.length - s.added.length) else text

end Source

end GemOrder

import GemOrder.Config
import GemOrder.Source
import GemOrder.Text.Word

namespace GemOrder

/-- The words that tell what a line is. -/
structure Vocabulary where
  declaration : List Char
  scope : List Char
  closer : List Char
  comment : List Char
  starters : List (List Char)

namespace Vocabulary

def ofConfig (c : Config) : Vocabulary where
  declaration := c.declarationKeyword.toList
  scope := c.scopeKeyword.toList
  closer := c.closerKeyword.toList
  comment := Text.trim c.commentPrefix.toList
  starters := c.starters.map String.toList

/-- A line opens with a keyword if a bracket or a blank inside the line follows it. -/
def opensWith (keyword : List Char) (l : Line) : Bool :=
  match Text.after? keyword (Text.trimStart l) with
  | some (c :: _) => (Text.isBlank c && c != '\n' && c != '\r') || c == '('
  | _ => false

/-- A line starts with a word if no further character of a word follows it. -/
def startsWithWord (word : List Char) (l : Line) : Bool :=
  match Text.after? word (Text.trimStart l) with
  | some (c :: _) => !Text.isWord c
  | some [] => true
  | none => false

variable (v : Vocabulary)

def isComment (l : Line) : Bool :=
  v.comment.isPrefixOf (Text.trimStart l)

/-- Blank lines and comments stand between declarations and belong to the next one. -/
def isFormatting (l : Line) : Bool :=
  l.isBlank || v.isComment l

def isDeclaration (l : Line) : Bool :=
  !v.isComment l && opensWith v.declaration l

def isHeader (l : Line) : Bool :=
  !v.isComment l && opensWith v.scope l

def isCloser (l : Line) : Bool :=
  startsWithWord v.closer l

def isStarter (l : Line) : Bool :=
  v.starters.any (startsWithWord · l)

def isQuote (c : Char) : Bool :=
  c == '"' || c == '\x27'

/-- A non-empty text between two quotes. -/
def quoted? : List Char → Option (List Char)
  | [] => none
  | q :: cs =>
    let name := cs.takeWhile (!isQuote ·)
    if isQuote q && !name.isEmpty && !(cs.dropWhile (!isQuote ·)).isEmpty then some name else none

/-- The quoted name after a keyword: blanks divide the two, or a bracket with blanks around it. -/
def argument? (cs : List Char) : Option (List Char) :=
  match cs.dropWhile Text.isBlank with
  | '(' :: rest => quoted? (rest.dropWhile Text.isBlank)
  | rest => if cs.head?.any Text.isBlank then quoted? rest else none

/-- The name that a declaration declares. -/
def declaredName? (l : Line) : Option (List Char) :=
  if v.isDeclaration l then (Text.after? v.declaration (Text.trimStart l)).bind argument? else none

/-- Whether a line goes on with the statement that `first` opens: no blank line, header or closer
does, and no comment or starter that is indented no deeper than `first`. -/
def continues (first l : Line) : Bool :=
  !(l.isBlank || v.isHeader l || v.isCloser l ||
    (l.indent ≤ first.indent && (v.isComment l || v.isStarter l)))

end Vocabulary

end GemOrder

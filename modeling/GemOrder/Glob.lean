namespace GemOrder.Glob

/-- A pattern is made of characters, `?` for any of them, `*` for any number of them, `**` for any
directories, and brackets for one character of a class or outside of it. -/
inductive Token where
  | char (c : Char)
  | any
  | sequence
  | directories
  | within (ranges : List (Char × Char))
  | except (ranges : List (Char × Char))
deriving DecidableEq

inductive Mistake where
  | tooManyStars
  | badDirectories
  | badClass
deriving DecidableEq

/-- Why a text is no pattern, and at which character. -/
structure SyntaxError where
  position : Nat
  mistake : Mistake
deriving DecidableEq

def Mistake.message : Mistake → String
  | .tooManyStars => "wildcards are either regular `*` or recursive `**`"
  | .badDirectories => "recursive wildcards must form a single path component"
  | .badClass => "invalid range pattern"

def SyntaxError.message (e : SyntaxError) : String :=
  s!"Pattern syntax error near position {e.position}: {e.mistake.message}"

/-- The characters of a class: each by itself, or two with a dash between them for a range. -/
def ranges : List Char → List (Char × Char)
  | a :: '-' :: b :: cs => (a, b) :: ranges cs
  | a :: cs => (a, a) :: ranges cs
  | [] => []

/-- The members of a class, up to its closing bracket. The first one is taken whatever it is. -/
def class? : List Char → Option (List Char)
  | [] => none
  | c :: cs => if cs.contains ']' then some (c :: cs.takeWhile (· != ']')) else none

/-- Reads the token that starts with `c`. `i` is its position, and `fresh` says that it follows a
slash or nothing at all. Gives the token and how many of the characters behind `c` belong to it. -/
def token (fresh : Bool) (i : Nat) (c : Char) (cs : List Char) :
    Except SyntaxError (Token × Nat) :=
  match c with
  | '?' => .ok (.any, 0)
  | '*' =>
    match (cs.takeWhile (· == '*')).length with
    | 0 => .ok (.sequence, 0)
    | 1 =>
      if !fresh then .error ⟨i - 1, .badDirectories⟩
      else match cs.drop 1 with
        | [] => .ok (.directories, 1)
        | next :: _ =>
          if next == '/' then .ok (.directories, 2) else .error ⟨i + 2, .badDirectories⟩
    | _ => .error ⟨i + 2, .tooManyStars⟩
  | '[' =>
    match cs with
    | '!' :: cs =>
      match class? cs with
      | some members => .ok (.except (ranges members), members.length + 2)
      | none => .error ⟨i, .badClass⟩
    | _ =>
      match class? cs with
      | some members => .ok (.within (ranges members), members.length + 1)
      | none => .error ⟨i, .badClass⟩
  | _ => .ok (.char c, 0)

/-- Reads the tokens of a pattern of which `i` characters are passed, the last one being
`previous`. -/
def tokensFrom (previous : Option Char) (i : Nat) : List Char → Except SyntaxError (List Token)
  | [] => .ok []
  | c :: cs =>
    match token (previous.all (· == '/')) i c cs with
    | .error e => .error e
    | .ok (t, size) =>
      (tokensFrom (c :: cs.take size).getLast? (i + 1 + size) (cs.drop size)).map (t :: ·)
termination_by cs => cs.length

/-- Reads a pattern. -/
def parse (pattern : String) : Except SyntaxError (List Token) :=
  tokensFrom none 0 pattern.toList

def inRanges (rs : List (Char × Char)) (c : Char) : Bool :=
  rs.any fun (lo, hi) => lo ≤ c && c ≤ hi

/-- Whether a token stands for this one character. -/
def Token.accepts : Token → Char → Bool
  | .char a, c => a == c
  | .any, _ => true
  | .within rs, c => inRanges rs c
  | .except rs, c => !inRanges rs c
  | .sequence, _ => false
  | .directories, _ => false

-- What a pattern stands for is found for all places of a text at once: for each place, the end
-- included, a list of answers says whether some tokens stand for what is left there.

/-- Only nothing is left at the end. -/
def atEnd : List Char → List Bool
  | [] => [true]
  | _ :: cs => false :: atEnd cs

/-- The answers behind a token for one character. -/
def afterChar (accepts : Char → Bool) : List Char → List Bool → List Bool
  | c :: cs, _ :: b :: bs => (accepts c && b) :: afterChar accepts cs (b :: bs)
  | _, _ => [false]

/-- The answers behind any number of characters: what holds at a place holds before it too. -/
def afterSequence : List Bool → List Bool
  | [] => []
  | b :: bs =>
    match afterSequence bs with
    | [] => [b]
    | later :: rest => (b || later) :: later :: rest

/-- The answers behind some directories. At least one character is passed, and the last one passed
is a slash or the last of the text. -/
def afterSlash : List Char → List Bool → List Bool
  | c :: cs, _ :: b :: bs =>
    match afterSlash cs (b :: bs) with
    | [] => [false]
    | later :: rest => (c == '/' && b || later) :: later :: rest
  | _, bs => bs

/-- The answers for a token and what follows it, of which `bs` are the answers. -/
def Token.extend (t : Token) (cs : List Char) (bs : List Bool) : List Bool :=
  match t with
  | .sequence => afterSequence bs
  | .directories => List.zipWith or bs (afterSlash cs bs)
  | t => afterChar t.accepts cs bs

/-- For each place of a text, whether tokens stand for what is left there. -/
def answers : List Token → List Char → List Bool
  | [], cs => atEnd cs
  | t :: ts, cs => t.extend cs (answers ts cs)

/-- Whether tokens stand for a whole text. -/
def isMatch (ts : List Token) (cs : List Char) : Bool :=
  (answers ts cs).head?.any id

/-- Whether a pattern stands for a text. -/
def isMatchOf (ts : List Token) (text : String) : Bool :=
  isMatch ts text.toList

end GemOrder.Glob

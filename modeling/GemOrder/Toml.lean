import GemOrder.Config

namespace GemOrder.Toml

inductive Value where
  | text (s : List Char)
  | list (ss : List (List Char))
deriving DecidableEq

/-- A reading of something at the front of a text, with what is left of the text. -/
abbrev Reading (α : Type) := Option (α × List Char)

def isSpace (c : Char) : Bool :=
  c == ' ' || c == '\t'

def skipSpace (cs : List Char) : List Char :=
  cs.dropWhile isSpace

/-- Controls other than the tab stand nowhere. -/
def isPlain (c : Char) : Bool :=
  c == '\t' || (0x20 ≤ c.toNat && c.toNat != 0x7F)

def newline? : List Char → Option (List Char)
  | '\n' :: cs => some cs
  | '\r' :: '\n' :: cs => some cs
  | _ => none

def skipComment : List Char → List Char
  | '#' :: cs => cs.dropWhile isPlain
  | cs => cs

/-- Skips space, newlines and comments, at most `steps` of them. -/
def skipFiller : (steps : Nat) → List Char → List Char
  | 0, cs => cs
  | steps + 1, cs =>
    match skipSpace cs with
    | '#' :: rest => skipFiller steps (rest.dropWhile isPlain)
    | rest =>
      match newline? rest with
      | some rest => skipFiller steps rest
      | none => rest

def hexDigit? (c : Char) : Option Nat :=
  if '0' ≤ c && c ≤ '9' then some (c.toNat - '0'.toNat)
  else if 'a' ≤ c && c ≤ 'f' then some (c.toNat - 'a'.toNat + 10)
  else if 'A' ≤ c && c ≤ 'F' then some (c.toNat - 'A'.toNat + 10)
  else none

/-- The character with a code point in hexadecimal digits. -/
def charOfHex? (digits : List Char) : Option Char := do
  let ds ← digits.mapM hexDigit?
  let n := ds.foldl (fun n d => 16 * n + d) 0
  if n.isValidChar then some (Char.ofNat n) else none

/-- The character that a letter behind a backslash stands for. -/
def escape? : Char → Option Char
  | 'b' => some '\x08'
  | 't' => some '\t'
  | 'n' => some '\n'
  | 'f' => some '\x0c'
  | 'r' => some '\r'
  | '"' => some '"'
  | '\\' => some '\\'
  | _ => none

/-- Puts a character in front of a text that has been read. -/
def push : Option Char → Reading (List Char) → Reading (List Char)
  | some c, some (s, rest) => some (c :: s, rest)
  | _, _ => none

/-- The rest of a text in double quotes. -/
def basic : List Char → Reading (List Char)
  | [] => none
  | '"' :: cs => some ([], cs)
  | '\\' :: 'u' :: a :: b :: c :: d :: cs => push (charOfHex? [a, b, c, d]) (basic cs)
  | '\\' :: 'U' :: a :: b :: c :: d :: e :: f :: g :: h :: cs =>
    push (charOfHex? [a, b, c, d, e, f, g, h]) (basic cs)
  | '\\' :: c :: cs => push (escape? c) (basic cs)
  | c :: cs => if isPlain c && c != '\\' then push (some c) (basic cs) else none

/-- Whether a newline comes next, perhaps after space. -/
def meetsNewline (cs : List Char) : Bool :=
  (newline? (skipSpace cs)).isSome

/-- One or two quotes that stand before the closing ones belong to the text. -/
def closing (quote : Char) (cs : List Char) : List Char × List Char :=
  let extra := min 2 (cs.takeWhile (· == quote)).length
  (cs.take extra, cs.drop extra)

/-- The rest of a text in three double quotes. A backslash at the end of a line takes away all space
and newlines behind it, which `skipping` stands for. -/
def basicLines (skipping : Bool) : List Char → Reading (List Char)
  | [] => none
  | '\r' :: '\n' :: cs =>
    if skipping then basicLines true cs else push (some '\n') (basicLines false cs)
  | '\n' :: cs => if skipping then basicLines true cs else push (some '\n') (basicLines false cs)
  | '"' :: '"' :: '"' :: cs => some (closing '"' cs)
  | '\\' :: 'u' :: a :: b :: c :: d :: cs =>
    push (charOfHex? [a, b, c, d]) (basicLines false cs)
  | '\\' :: 'U' :: a :: b :: c :: d :: e :: f :: g :: h :: cs =>
    push (charOfHex? [a, b, c, d, e, f, g, h]) (basicLines false cs)
  | '\\' :: c :: cs =>
    if meetsNewline (c :: cs) then basicLines true (c :: cs)
    else push (escape? c) (basicLines false cs)
  | c :: cs =>
    if skipping && isSpace c then basicLines true cs
    else if isPlain c && c != '\\' then push (some c) (basicLines false cs)
    else none

/-- The rest of a text in single quotes. -/
def literal (cs : List Char) : Reading (List Char) :=
  let inside := cs.takeWhile (· != '\x27')
  match cs.dropWhile (· != '\x27') with
  | [] => none
  | _ :: rest => if inside.all isPlain then some (inside, rest) else none

/-- The rest of a text in three single quotes. -/
def literalLines : List Char → Reading (List Char)
  | [] => none
  | '\r' :: '\n' :: cs => push (some '\n') (literalLines cs)
  | '\n' :: cs => push (some '\n') (literalLines cs)
  | '\x27' :: '\x27' :: '\x27' :: cs => some (closing '\x27' cs)
  | c :: cs => if isPlain c then push (some c) (literalLines cs) else none

/-- A newline right behind the opening quotes does not belong to the text. -/
def skipNewline (cs : List Char) : List Char :=
  (newline? cs).getD cs

/-- A text in quotes of any kind. -/
def quoted : List Char → Reading (List Char)
  | '"' :: '"' :: '"' :: cs => basicLines false (skipNewline cs)
  | '"' :: cs => basic cs
  | '\x27' :: '\x27' :: '\x27' :: cs => literalLines (skipNewline cs)
  | '\x27' :: cs => literal cs
  | _ => none

/-- The rest of a list of at most `size` texts. -/
def items : (size : Nat) → List Char → Reading (List (List Char))
  | 0, _ => none
  | size + 1, cs =>
    match skipFiller cs.length cs with
    | ']' :: rest => some ([], rest)
    | cs =>
      match quoted cs with
      | none => none
      | some (s, rest) =>
        match skipFiller rest.length rest with
        | ',' :: rest => (items size rest).map fun (ss, rest) => (s :: ss, rest)
        | ']' :: rest => some ([s], rest)
        | _ => none

def value (cs : List Char) : Reading Value :=
  match cs with
  | '[' :: rest => (items cs.length rest).map fun (ss, rest) => (.list ss, rest)
  | _ => (quoted cs).map fun (s, rest) => (.text s, rest)

def isBare (c : Char) : Bool :=
  ('a' ≤ c && c ≤ 'z') || ('A' ≤ c && c ≤ 'Z') || ('0' ≤ c && c ≤ '9') || c == '-' || c == '_'

def key : List Char → Reading (List Char)
  | '"' :: cs => basic cs
  | '\x27' :: cs => literal cs
  | cs =>
    let bare := cs.takeWhile isBare
    if bare.isEmpty then none else some (bare, cs.dropWhile isBare)

/-- Nothing but space and a comment is left on a line. -/
def lineEnd? (cs : List Char) : Option (List Char) :=
  match skipComment (skipSpace cs) with
  | [] => some []
  | rest => newline? rest

/-- The keys and values of a document, of which there are at most `size`. -/
def pairs : (size : Nat) → List Char → Option (List (List Char × Value))
  | 0, _ => none
  | size + 1, cs =>
    match skipFiller cs.length cs with
    | [] => some []
    | cs => do
      let (k, rest) ← key cs
      let '=' :: rest := skipSpace rest | none
      let (x, rest) ← value (skipSpace rest)
      let rest ← lineEnd? rest
      return (k, x) :: (← pairs size rest)

/-- Puts one setting into an overlay, unless there is no such setting or it is of another kind. -/
def set? (o : Config.Overlay) : String → Value → Option Config.Overlay
  | "declaration_keyword", .text s => some { o with declarationKeyword := String.ofList s }
  | "scope_keyword", .text s => some { o with scopeKeyword := String.ofList s }
  | "closer_keyword", .text s => some { o with closerKeyword := String.ofList s }
  | "comment_prefix", .text s => some { o with commentPrefix := String.ofList s }
  | "starter_keywords", .list ss => some { o with starterKeywords := ss.map String.ofList }
  | "extra_starter_keywords", .list ss =>
    some { o with extraStarterKeywords := ss.map String.ofList }
  | "manifest_names", .list ss => some { o with manifestNames := ss.map String.ofList }
  | _, _ => none

/-- No key stands twice. -/
def distinct : List (List Char) → Bool
  | [] => true
  | k :: ks => !ks.contains k && distinct ks

/-- A mark of the encoding may stand at the front of a document. -/
def skipMark : List Char → List Char
  | '\ufeff' :: cs => cs
  | cs => cs

/-- The settings of a document. Its keys are settings and its values texts or lists of texts; every
other document is refused. -/
def parse? (document : String) : Option Config.Overlay := do
  let cs := skipMark document.toList
  let found ← pairs (cs.length + 1) cs
  if distinct (found.map (·.1)) then
    found.foldlM (fun o (k, x) => set? o (String.ofList k) x) {}
  else none

end GemOrder.Toml

import GemOrder.Diff.Compact

namespace GemOrder.Diff

/-- Cuts a text after each newline, carriage return, or carriage return with newline; `read` is what
the current token holds so far, last character first. -/
def tokensFrom (read : List Char) : List Char → List Token
  | [] => if read.isEmpty then [] else [read.reverse]
  | '\r' :: '\n' :: cs => ('\n' :: '\r' :: read).reverse :: tokensFrom [] cs
  | c :: cs =>
    if c == '\n' || c == '\r' then (c :: read).reverse :: tokensFrom [] cs
    else tokensFrom (c :: read) cs

def tokens (text : List Char) : Tokens :=
  (tokensFrom [] text).toArray

def context : Nat := 3

abbrev Hunk := List Op

/-- Cuts what is kept in front of the first change to its context. -/
def trimFirst : List Op → List Op
  | op :: ops =>
    if op.kind = .keep then op.shrinkLeft (op.oldSize - context) :: ops else op :: ops
  | [] => []

/-- Cuts what is kept behind the last change to its context. -/
def trimLast : List Op → List Op
  | [] => []
  | [op] => if op.kind = .keep then [op.shrinkRight (op.oldSize - context)] else [op]
  | op :: ops => op :: trimLast ops

/-- Divides a script where more is kept than the context of two changes; `current` are the steps of
the current hunk, last one first. -/
def divide (current : List Op) : List Op → List Hunk
  | [] =>
    match current with
    | [] => []
    | [op] => if op.kind = .keep then [] else [[op]]
    | _ => [current.reverse]
  | op :: ops =>
    if op.kind = .keep && 2 * context < op.oldSize then
      (op.shrinkRight (op.oldSize - context) :: current).reverse ::
        divide [op.shrinkLeft (op.oldSize - context)] ops
    else divide (op :: current) ops

def hunks (ops : List Op) : List Hunk :=
  divide [] (trimLast (trimFirst ops))

/-- Some tokens, each behind a mark. One without a terminator is followed by a remark. -/
def mark (c : Char) (ts : Tokens) (start size : Nat) : List Char :=
  (ts.extract start (start + size)).toList.flatMap fun t =>
    let ended := t.getLast?.any fun c => c == '\n' || c == '\r'
    c :: t ++ if ended then [] else "\n\\ No newline at end of file\n".toList

def Op.text (old new : Tokens) (op : Op) : List Char :=
  match op.kind with
  | .keep => mark ' ' old op.old op.oldSize
  | _ => mark '-' old op.old op.oldSize ++ mark '+' new op.new op.newSize

/-- A range of lines, counted from one; an empty one is given by the line before it. -/
def rangeText (start stop : Nat) : String :=
  if stop - start = 1 then s!"{start + 1}"
  else if stop - start = 0 then s!"{start},0"
  else s!"{start + 1},{stop - start}"

def Hunk.text (old new : Tokens) (h : Hunk) : List Char :=
  match h.head?, h.getLast? with
  | some first, some last =>
    s!"@@ -{rangeText first.old last.oldEnd} +{rangeText first.new last.newEnd} @@\n".toList ++
      h.flatMap (Op.text old new)
  | _, _ => []

/-- The difference of two texts that both go by the name `label`. -/
def unified (label : String) (oldText newText : String) : String :=
  let old := tokens oldText.toList
  let new := tokens newText.toList
  match hunks (compactScript old new) with
  | [] => ""
  | hs => s!"--- a/{label}\n+++ b/{label}\n" ++ String.ofList (hs.flatMap (Hunk.text old new))

end GemOrder.Diff

import GemOrder.Vocabulary

namespace GemOrder

/-- A scope by the numbers of its lines, counted from zero. Its body lies between header and
closer. -/
structure Scope where
  header : Nat
  closer : Nat
  children : List Scope

namespace Scope

/-- Looks for the closer of a scope at indent `depth` in the lines that follow its header, the first
of which has number `i`. Gives the closer's number and the scopes before it. -/
def close? (v : Vocabulary) (depth i : Nat) : List Line → Option (Nat × List Scope)
  | [] => none
  | l :: ls =>
    if v.isHeader l && depth < l.indent then
      match close? v l.indent (i + 1) ls with
      | none => none
      | some (c, inner) =>
        (close? v depth (c + 1) (ls.drop (c - i))).map fun (d, later) =>
          (d, ⟨i, c, inner⟩ :: later)
    else if v.isCloser l && l.indent == depth then some (i, [])
    else close? v depth (i + 1) ls
termination_by ls => ls.length

/-- What a header turns out to open. -/
inductive Finding where
  | closed (s : Scope)
  | unclosed (line : Nat)

def Finding.scope? : Finding → Option Scope
  | .closed s => some s
  | .unclosed _ => none

/-- Goes through lines, the first of which has number `i`. After a scope the search goes on behind
its closer; a header without a closer is a line like any other. -/
def search (v : Vocabulary) (i : Nat) : List Line → List Finding
  | [] => []
  | l :: ls =>
    if v.isHeader l then
      match close? v l.indent (i + 1) ls with
      | some (c, inner) => .closed ⟨i, c, inner⟩ :: search v (c + 1) (ls.drop (c - i))
      | none => .unclosed i :: search v (i + 1) ls
    else search v (i + 1) ls
termination_by ls => ls.length

/-- The outermost scopes of some lines, in order. -/
def locate (v : Vocabulary) (ls : List Line) : List Scope :=
  (search v 0 ls).filterMap Finding.scope?

end Scope

end GemOrder

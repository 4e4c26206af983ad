namespace GemOrder

/-- A path keeps its spelling; what it means goes by its components. -/
structure Path where
  text : String
deriving DecidableEq

namespace Path

inductive Component where
  | root
  | here
  | parent
  | name (s : String)
deriving DecidableEq

/-- Cuts at slashes; there is one part more than there are slashes. -/
def cut : List Char → List (List Char)
  | [] => [[]]
  | c :: cs =>
    if c == '/' then [] :: cut cs
    else match cut cs with
      | [] => [[c]]
      | part :: parts => (c :: part) :: parts

def parts (p : Path) : List String :=
  (cut p.text.toList).map String.ofList

def isAbsolute (p : Path) : Bool :=
  p.text.toList.head?.any (· == '/')

/-- A part behind the first one that stands for no component. -/
def isIdle (part : String) : Bool :=
  part == "" || part == "."

def component? (part : String) : Option Component :=
  if isIdle part then none else if part == ".." then some .parent else some (.name part)

/-- Slashes in a row and dots count for nothing, save a dot at the very front. -/
def components (p : Path) : List Component :=
  match p.parts with
  | [] => []
  | first :: rest =>
    let front :=
      if first == "." then [.here]
      else if first == "" then (if p.isAbsolute then [.root] else [])
      else (component? first).toList
    front ++ rest.filterMap component?

/-- Whether two paths have the same components. -/
def same (p q : Path) : Bool :=
  p.components == q.components

/-- The last component, if it is a name. -/
def fileName? (p : Path) : Option String :=
  match p.components.getLast? with
  | some (.name s) => some s
  | _ => none

/-- A path by its first part and the others. -/
def build (first : String) (rest : List String) : Path :=
  if rest.isEmpty then ⟨if first == "" then "/" else first⟩
  else ⟨"/".intercalate (first :: rest)⟩

/-- The paths above one whose first part is `first`, nearest first; its other parts are given last
part first. -/
def above (first : String) : List String → List Path
  | [] => if first == "" then [] else [⟨""⟩]
  | part :: rest =>
    if isIdle part then above first rest
    else build first (rest.dropWhile isIdle).reverse :: above first rest

def parents (p : Path) : List Path :=
  match p.parts with
  | [] => []
  | first :: rest => above first rest.reverse

/-- A path and all above it. Of a relative path the last one is empty. -/
def ancestors (p : Path) : List Path :=
  p :: p.parents

def parent? (p : Path) : Option Path :=
  p.parents.head?

/-- A path taken from `p`; one that is absolute stands for itself. -/
def join (p : Path) (name : String) : Path :=
  if isAbsolute ⟨name⟩ then ⟨name⟩
  else match p.text.toList.getLast? with
    | none => ⟨name⟩
    | some c => if c == '/' then ⟨p.text ++ name⟩ else ⟨p.text ++ "/" ++ name⟩

def Component.rank : Component → Nat
  | .root => 0
  | .here => 1
  | .parent => 2
  | .name _ => 3

def Component.text : Component → String
  | .name s => s
  | _ => ""

def Component.le (a b : Component) : Bool :=
  a.rank < b.rank || (a.rank == b.rank && a.text ≤ b.text)

def componentsLE : List Component → List Component → Bool
  | [], _ => true
  | _ :: _, [] => false
  | a :: as, b :: bs => if a == b then componentsLE as bs else a.le b

/-- Paths are ordered by their components. -/
def le (p q : Path) : Bool :=
  componentsLE p.components q.components

end Path

end GemOrder

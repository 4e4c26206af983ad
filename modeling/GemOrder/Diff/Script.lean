namespace GemOrder.Diff

/-- A token is a line with its terminator. -/
abbrev Token := List Char

abbrev Tokens := Array Token

inductive Kind where
  | keep
  | delete
  | insert
  | replace
deriving DecidableEq

/-- One step of a script: a range of old tokens and the range of new tokens that it becomes. -/
structure Op where
  kind : Kind
  old : Nat
  oldSize : Nat
  new : Nat
  newSize : Nat
deriving DecidableEq

namespace Op

def keep (old new size : Nat) : Op :=
  ⟨.keep, old, size, new, size⟩

def delete (old size new : Nat) : Op :=
  ⟨.delete, old, size, new, 0⟩

def insert (old new size : Nat) : Op :=
  ⟨.insert, old, 0, new, size⟩

def oldEnd (op : Op) : Nat :=
  op.old + op.oldSize

def newEnd (op : Op) : Nat :=
  op.new + op.newSize

end Op

/-- How many tokens agree from `i` and `j` on, of the next `size` ones. -/
def agreeAfter (old new : Tokens) (i j : Nat) : (size : Nat) → Nat
  | 0 => 0
  | size + 1 => if old[i]? == new[j]? then agreeAfter old new (i + 1) (j + 1) size + 1 else 0

/-- How many tokens agree before `i` and `j`, of the last `size` ones. -/
def agreeBefore (old new : Tokens) (i j : Nat) : (size : Nat) → Nat
  | 0 => 0
  | size + 1 =>
    if old[i - 1]? == new[j - 1]? then agreeBefore old new (i - 1) (j - 1) size + 1 else 0

/-- A range of old tokens beside a range of new ones. -/
structure Area where
  old : Nat
  oldSize : Nat
  new : Nat
  newSize : Nat

/-- How many old tokens the search has passed on each diagonal. Diagonal `k` holds the points at
which `k` more old than new tokens are passed. -/
structure Reach where
  origin : Nat
  passed : Array Nat

namespace Reach

def start (origin : Nat) : Reach :=
  ⟨origin, Array.replicate (2 * origin + 1) 0⟩

def get (r : Reach) (k : Int) : Nat :=
  r.passed.getD (k + r.origin).toNat 0

def set (r : Reach) (k : Int) (x : Nat) : Reach :=
  { r with passed := r.passed.setIfInBounds (k + r.origin).toNat x }

/-- Where step `d` comes to diagonal `k`, from the neighbour that got further. -/
def enter (r : Reach) (d k : Int) : Nat :=
  if k == -d || (k != d && r.get (k - 1) < r.get (k + 1)) then r.get (k + 1) else r.get (k - 1) + 1

end Reach

/-- The diagonals that step `d` gets to. -/
def diagonals (d : Nat) : List Int :=
  (List.range (d + 1)).map fun (i : Nat) => (d : Int) - 2 * i

namespace Area

variable (old new : Tokens) (a : Area)

def delta : Int :=
  a.oldSize - a.newSize

def isOdd : Bool :=
  a.delta % 2 != 0

/-- Step `d` from the front. Gives a point at which it meets the search from the back. -/
def forward (d : Nat) (back : Reach) : List Int → Reach → (Nat × Nat) ⊕ Reach
  | [], front => .inr front
  | k :: ks, front =>
    let x := front.enter d k
    let y := (x - k).toNat
    let size := agreeAfter old new (a.old + x) (a.new + y) (min (a.oldSize - x) (a.newSize - y))
    let front := front.set k (x + size)
    if a.isOdd && (k - a.delta).natAbs + 1 ≤ d
        && a.oldSize ≤ front.get k + back.get (a.delta - k) then
      .inl (a.old + x, a.new + y)
    else forward d back ks front

/-- Step `d` from the back. Gives a point at which it meets the search from the front. -/
def backward (d : Nat) (front : Reach) : List Int → Reach → (Nat × Nat) ⊕ Reach
  | [], back => .inr back
  | k :: ks, back =>
    let x := back.enter d k
    let y := (x - k).toNat
    let size := agreeBefore old new (a.old + a.oldSize - x) (a.new + a.newSize - y)
      (min (a.oldSize - x) (a.newSize - y))
    let back := back.set k (x + size)
    if !a.isOdd && (k - a.delta).natAbs ≤ d
        && a.oldSize ≤ back.get k + front.get (a.delta - k) then
      .inl (a.old + a.oldSize - (x + size), a.new + a.newSize - (y + size))
    else backward d front ks back

/-- Takes steps from both ends until they meet. -/
def meet? (front back : Reach) : (steps d : Nat) → Option (Nat × Nat)
  | 0, _ => none
  | steps + 1, d =>
    match a.forward old new d back (diagonals d) front with
    | .inl point => some point
    | .inr front =>
      match a.backward old new d front (diagonals d) back with
      | .inl point => some point
      | .inr back => meet? front back steps (d + 1)

/-- A point that some shortest script passes through. -/
def middle? : Option (Nat × Nat) :=
  let steps := (a.oldSize + a.newSize + 1) / 2 + 1
  a.meet? old new (.start (steps + 1)) (.start (steps + 1)) steps 0

def size : Nat :=
  a.oldSize + a.newSize

/-- The part of an area before a point. -/
def before (x y : Nat) : Area :=
  ⟨a.old, x - a.old, a.new, y - a.new⟩

/-- The part of an area behind a point. -/
def after (x y : Nat) : Area :=
  ⟨x, a.old + a.oldSize - x, y, a.new + a.newSize - y⟩

/-- Steps that keep `size` tokens, if there are any. -/
def kept (old new size : Nat) : List Op :=
  if size == 0 then [] else [.keep old new size]

/-- Steps that delete the old tokens of an area and insert its new ones, as far as there are any. -/
def changed : List Op :=
  (if a.oldSize == 0 then [] else [.delete a.old a.oldSize a.new]) ++
    (if a.newSize == 0 then [] else [.insert a.old a.new a.newSize])

/-- How many tokens agree at the front of an area. -/
def front : Nat :=
  agreeAfter old new a.old a.new (min a.oldSize a.newSize)

/-- How many tokens agree at the back of an area, those at its front apart. -/
def back : Nat :=
  let front := a.front old new
  agreeBefore old new (a.old + a.oldSize) (a.new + a.newSize)
    (min (a.oldSize - front) (a.newSize - front))

/-- What lies between the tokens that agree at either end. -/
def rest : Area :=
  let front := a.front old new
  let back := a.back old new
  ⟨a.old + front, a.oldSize - front - back, a.new + front, a.newSize - front - back⟩

/-- A script for an area: what agrees at either end is kept, and the rest is divided if it holds
both old and new tokens. -/
def script (a : Area) : List Op :=
  let front := a.front old new
  let back := a.back old new
  let rest := a.rest old new
  let middle :=
    if rest.oldSize == 0 || rest.newSize == 0 then rest.changed
    else match rest.middle? old new with
      | none => rest.changed
      | some (x, y) =>
        if (rest.before x y).size < a.size ∧ (rest.after x y).size < a.size then
          script (rest.before x y) ++ script (rest.after x y)
        else rest.changed
  kept a.old a.new front ++ middle ++ kept (rest.old + rest.oldSize) (rest.new + rest.newSize) back
termination_by a.size
decreasing_by
  · exact (by assumption : _ ∧ _).1
  · exact (by assumption : _ ∧ _).2

end Area

/-- A script that makes the new tokens out of the old ones. It is found by looking for a point in the
middle of a shortest one, from both ends at once, and then on either side of that point. -/
def script (old new : Tokens) : List Op :=
  Area.script old new ⟨0, old.size, 0, new.size⟩

end GemOrder.Diff

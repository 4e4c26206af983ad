import GemOrder.Diff.Script

namespace GemOrder.Diff

namespace Op

/-- A step `n` tokens further to the front. -/
def shiftLeft (op : Op) (n : Nat) : Op :=
  { op with old := op.old - n, new := op.new - n }

/-- A step `n` tokens further to the back. -/
def shiftRight (op : Op) (n : Nat) : Op :=
  { op with old := op.old + n, new := op.new + n }

/-- Keeps `n` tokens more at the front. -/
def growLeft (op : Op) (n : Nat) : Op :=
  keep (op.old - n) (op.new - n) (op.oldSize + n)

/-- Keeps `n` tokens more at the back. -/
def growRight (op : Op) (n : Nat) : Op :=
  keep op.old op.new (op.oldSize + n)

/-- Keeps `n` tokens less at the front. -/
def shrinkLeft (op : Op) (n : Nat) : Op :=
  keep (op.old + n) (op.new + n) (op.oldSize - n)

/-- Keeps `n` tokens less at the back. -/
def shrinkRight (op : Op) (n : Nat) : Op :=
  keep op.old op.new (op.oldSize - n)

/-- A deletion or insertion together with the next one of its kind. -/
def append (op next : Op) : Op :=
  { op with oldSize := op.oldSize + next.oldSize, newSize := op.newSize + next.newSize }

end Op

/-- How many tokens and steps there are to move past. -/
def weight : List Op → Nat
  | [] => 0
  | op :: ops => op.oldSize + 1 + weight ops

/-- A place in a script: the steps before it with the nearest one first, the step there, and the
steps behind it. -/
structure Place where
  above : List Op
  op : Op
  below : List Op

namespace Place

def growBelow (s : Nat) (kept : Op) : List Op → List Op
  | next :: below => if next.kind = .keep then next.growLeft s :: below else kept :: next :: below
  | [] => [kept]

def growAbove (s : Nat) (kept : Op) : List Op → List Op
  | previous :: above =>
    if previous.kind = .keep then previous.growRight s :: above else kept :: previous :: above
  | [] => [kept]

/-- Moves a change towards the front, as far as it goes. Kept tokens that agree with the end of an
insertion go behind it; a change of the other kind is passed, and one of the same kind is joined. -/
def up (old new : Tokens) (op : Op) (below : List Op) : (above : List Op) → Place
  | [] => ⟨[], op, below⟩
  | previous :: above =>
    if previous.kind = .keep then
      let s := agreeBefore old new previous.oldEnd op.newEnd (min previous.oldSize op.newSize)
      if s = 0 then
        if previous.oldSize = 0 then up old new op below above
        else ⟨previous :: above, op, below⟩
      else
        let below := growBelow s (.keep (previous.oldEnd - s) (op.newEnd - s) s) below
        if previous.oldSize ≤ s then up old new (op.shiftLeft s) below above
        else up old new (op.shiftLeft s) below (previous.shrinkRight s :: above)
    else if previous.kind = op.kind then up old new (previous.append op) below above
    else up old new op (previous :: below) above
termination_by above => weight above
decreasing_by all_goals simp only [weight, Op.shrinkRight, Op.keep]; omega

/-- Moves a change towards the back, as far as it goes. -/
def down (old new : Tokens) (above : List Op) (op : Op) : (below : List Op) → Place
  | [] => ⟨above, op, []⟩
  | next :: below =>
    if next.kind = .keep then
      let s := agreeAfter old new next.old op.new (min next.oldSize op.newSize)
      if s = 0 then
        if next.oldSize = 0 then down old new above op below
        else ⟨above, op, next :: below⟩
      else
        let above := growAbove s (.keep next.old op.new s) above
        if next.oldSize ≤ s then down old new above (op.shiftRight s) below
        else down old new above (op.shiftRight s) (next.shrinkLeft s :: below)
    else if next.kind = op.kind then down old new above (op.append next) below
    else down old new (next :: above) op below
termination_by below => weight below
decreasing_by all_goals simp only [weight, Op.shrinkLeft, Op.keep]; omega

end Place

/-- Moves every change of one kind up and then down. -/
def settle (old new : Tokens) (kind : Kind) : (moves : Nat) → (above below : List Op) → List Op
  | 0, above, below => above.reverse ++ below
  | _, above, [] => above.reverse
  | moves + 1, above, op :: below =>
    if op.kind = kind then
      let raised := Place.up old new op below above
      let lowered := Place.down old new raised.above raised.op raised.below
      settle old new kind moves (lowered.op :: lowered.above) lowered.below
    else settle old new kind moves (op :: above) below

/-- A run of changes as a single step. -/
structure Change where
  deleted : Option Op := none
  inserted : Option Op := none

namespace Change

def join (found : Option Op) (op : Op) : Option Op :=
  some (match found with | none => op | some first => first.append op)

def ops (c : Change) : List Op :=
  match c.deleted, c.inserted with
  | none, none => []
  | some d, none => [d]
  | none, some i => [i]
  | some d, some i => [⟨.replace, d.old, d.oldSize, i.new, i.newSize⟩]

/-- Joins steps that keep tokens next to each other, and the changes between two such steps. -/
def merge (kept : Option Op) (change : Change) : List Op → List Op
  | [] => kept.toList ++ change.ops
  | op :: rest =>
    match op.kind with
    | .keep => change.ops ++ merge (join kept op) {} rest
    | .insert => kept.toList ++ merge none { change with inserted := join change.inserted op } rest
    | _ => kept.toList ++ merge none { change with deleted := join change.deleted op } rest

end Change

/-- The script of two sequences, with as few and as large changes as moving them allows. -/
def compactScript (old new : Tokens) : List Op :=
  let ops := script old new
  let moves := ops.length + old.size + new.size
  let ops := settle old new .delete moves [] ops
  let ops := settle old new .insert moves [] ops
  Change.merge none {} ops

end GemOrder.Diff

namespace GemOrder.Text

/-- Closed ranges of code points, in ascending order. -/
abbrev Ranges := List (Nat × Nat)

/-- Whether a code point is in one of some ranges. Behind one that starts beyond it, none is looked
at. -/
def Ranges.holds : Ranges → Nat → Bool
  | [], _ => false
  | (lo, hi) :: rs, n => lo ≤ n && (n ≤ hi || Ranges.holds rs n)

def Ranges.covers (rs : Ranges) (c : Char) : Bool :=
  rs.holds c.toNat

end GemOrder.Text

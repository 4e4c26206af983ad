import GemOrder.Scope

namespace GemOrder

namespace Scope

variable {v : Vocabulary}

/-- Scopes that lie between line `lo` and line `hi`, one behind the other, and the children of each
between its own header and closer. -/
inductive Fits : Nat → Nat → List Scope → Prop where
  | nil {lo hi : Nat} (h : lo ≤ hi) : Fits lo hi []
  | cons {lo hi header closer : Nat} {children scopes : List Scope} (h : lo ≤ header)
      (inside : Fits (header + 1) closer children) (behind : Fits (closer + 1) hi scopes) :
      Fits lo hi (⟨header, closer, children⟩ :: scopes)

/-- Some scopes with all that lie in them, at any depth. -/
def tree : List Scope → List Scope
  | [] => []
  | ⟨header, closer, children⟩ :: scopes =>
    ⟨header, closer, children⟩ :: (tree children ++ tree scopes)

theorem mem_tree_of_mem {s : Scope} {scopes : List Scope} (h : s ∈ scopes) : s ∈ tree scopes := by
  induction scopes with
  | nil => contradiction
  | cons t scopes ih =>
    obtain ⟨header, closer, children⟩ := t
    rw [tree]
    rcases List.mem_cons.mp h with rfl | h
    · exact List.mem_cons_self
    · exact List.mem_cons_of_mem _ (List.mem_append_right _ (ih h))

theorem Fits.le {lo hi : Nat} {scopes : List Scope} (h : Fits lo hi scopes) : lo ≤ hi := by
  induction h with
  | nil h => exact h
  | cons h inside behind ihi ihb => omega

theorem Fits.mono {lo lo' hi : Nat} {scopes : List Scope} (h : Fits lo hi scopes) (hl : lo' ≤ lo) :
    Fits lo' hi scopes := by
  cases h with
  | nil h => exact .nil (Nat.le_trans hl h)
  | cons h inside behind => exact .cons (Nat.le_trans hl h) inside behind

/-- Every scope of a tree lies within the bounds of the tree. -/
theorem Fits.mem_tree {lo hi : Nat} {scopes : List Scope} (h : Fits lo hi scopes) :
    ∀ s ∈ tree scopes, lo ≤ s.header ∧ s.header < s.closer ∧ s.closer < hi := by
  induction h with
  | nil h => simp [tree]
  | cons h inside behind ihi ihb =>
    have hi := inside.le
    have hb := behind.le
    intro s hs
    simp only [tree, List.mem_cons, List.mem_append] at hs
    rcases hs with rfl | hs | hs
    · dsimp only
      omega
    · have := ihi s hs
      omega
    · have := ihb s hs
      omega

theorem close?_fits {depth i c : Nat} {ls : List Line} {inner : List Scope}
    (h : close? v depth i ls = some (c, inner)) : c < i + ls.length ∧ Fits i c inner := by
  fun_induction close? v depth i ls generalizing c inner with
  | case1 => contradiction
  | case2 depth i l ls hh hc ih => contradiction
  | case3 depth i l ls hh c' inner' hc ih1 ih2 =>
    obtain ⟨⟨d, later⟩, hd, he⟩ := Option.map_eq_some_iff.mp h
    cases he
    obtain ⟨hlt, hin⟩ := ih1 hc
    obtain ⟨hlt', hlater⟩ := ih2 hd
    have := hin.le
    rw [List.length_drop] at hlt'
    refine ⟨?_, .cons (Nat.le_refl i) hin hlater⟩
    rw [List.length_cons]
    omega
  | case4 depth i l ls hh hc =>
    cases h
    exact ⟨by simp, .nil (Nat.le_refl i)⟩
  | case5 depth i l ls hh hc ih =>
    obtain ⟨hlt, hin⟩ := ih h
    refine ⟨?_, hin.mono (Nat.le_succ i)⟩
    rw [List.length_cons]
    omega

theorem search_fits (v : Vocabulary) (i : Nat) (ls : List Line) :
    Fits i (i + ls.length) ((search v i ls).filterMap Finding.scope?) := by
  fun_induction search v i ls with
  | case1 i => exact .nil (Nat.le_refl i)
  | case2 i l ls hh c inner hc ih =>
    obtain ⟨hlt, hin⟩ := close?_fits hc
    have := hin.le
    have hend : c + 1 + (ls.drop (c - i)).length = i + (l :: ls).length := by
      rw [List.length_drop, List.length_cons]
      omega
    rw [hend] at ih
    exact .cons (Nat.le_refl i) hin ih
  | case3 i l ls hh hc ih =>
    rw [List.length_cons, Nat.add_comm ls.length, ← Nat.add_assoc]
    exact ih.mono (Nat.le_succ i)
  | case4 i l ls hh ih =>
    rw [List.length_cons, Nat.add_comm ls.length, ← Nat.add_assoc]
    exact ih.mono (Nat.le_succ i)

/-- The scopes of a text lie among its lines. -/
theorem locate_fits (v : Vocabulary) (ls : List Line) : Fits 0 ls.length (locate v ls) := by
  simpa [locate] using search_fits v 0 ls

end Scope

end GemOrder

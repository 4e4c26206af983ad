import GemOrder.Proofs.Grammar
import GemOrder.Sorter
import Mathlib

namespace GemOrder

namespace Scope

variable {v : Vocabulary} {i : Nat} {ls : List Line} {s t : Scope}

theorem StandsIn.le (h : StandsIn v i ls s) : i ≤ s.header := by
  obtain ⟨before, header, body, closer, behind, -, hs, -⟩ := h
  omega

/-- A scope of some lines is opened by the first of them, and then the search behind it finds it, or it
stands in the others. -/
theorem standsIn_cons_iff {l : Line} :
    StandsIn v i (l :: ls) s ↔
      (v.isHeader l = true ∧ s.header = i ∧
        close? v l.indent (i + 1) ls = some (s.closer, s.children)) ∨ StandsIn v (i + 1) ls s := by
  constructor
  · rintro ⟨before, header, body, closer, behind, hls, hs, hc, hh, hcl, hi, hbody⟩
    cases before with
    | nil =>
      obtain ⟨rfl, rfl⟩ := List.cons.inj hls
      have hstart : s.header = i := hs
      rw [hstart] at hc hbody
      exact Or.inl ⟨hh, hstart, by rw [hbody.close? hcl hi, hc]⟩
    | cons k before =>
      obtain ⟨rfl, rfl⟩ := List.cons.inj hls
      refine Or.inr ⟨before, header, body, closer, behind, rfl, ?_, hc, hh, hcl, hi, hbody⟩
      rw [hs, List.length_cons]
      omega
  · rintro (⟨hh, hs, hclose⟩ | h)
    · obtain ⟨body, closer, rest, rfl, hbody, hcl, hi, hc⟩ := exists_body hclose
      subst hs
      exact ⟨[], l, body, closer, rest, rfl, rfl, hc, hh, hcl, hi, hbody⟩
    · exact h.cons

theorem StandsIn.drop {k : Nat} (h : StandsIn v i ls s) (hk : i + k ≤ s.header) :
    StandsIn v (i + k) (ls.drop k) s := by
  obtain ⟨before, header, body, closer, behind, rfl, hs, h⟩ := h
  have hle : k ≤ before.length := by omega
  refine ⟨before.drop k, header, body, closer, behind, ?_, ?_, h⟩
  · rw [List.drop_append_of_le_length hle]
  · rw [hs, List.length_drop]
    omega

/-- The search behind a header finds exactly what stands in the text. -/
theorem close?_iff_standsIn {h : Nat} {l : Line} (hl : ls[h]? = some l) (hh : v.isHeader l = true)
    (c : Nat) (inner : List Scope) :
    close? v l.indent (h + 1) (ls.drop (h + 1)) = some (c, inner) ↔ StandsIn v 0 ls ⟨h, c, inner⟩ := by
  have hsplit : ls.drop h = l :: ls.drop (h + 1) := by
    obtain ⟨hlt, rfl⟩ := List.getElem?_eq_some_iff.mp hl
    exact List.drop_eq_getElem_cons hlt
  constructor
  · intro hclose
    have hfront : StandsIn v (0 + (ls.take h).length) (ls.drop h) ⟨h, c, inner⟩ := by
      have hlen : 0 + (ls.take h).length = h := by
        have hlt := (List.getElem?_eq_some_iff.mp hl).1
        rw [Nat.zero_add, List.length_take_of_le (Nat.le_of_lt hlt)]
      rw [hlen, hsplit]
      exact standsIn_cons_iff.mpr (Or.inl ⟨hh, rfl, hclose⟩)
    simpa using hfront.append (ls.take h) []
  · intro hstands
    have hback := hstands.drop (k := h) (by simp)
    rw [hsplit, Nat.zero_add] at hback
    rcases standsIn_cons_iff.mp hback with ⟨-, -, hclose⟩ | hlater
    · exact hclose
    · exact absurd hlater.le (Nat.not_succ_le_self h)

theorem StandsIn.header_line (h : StandsIn v 0 ls s) :
    ∃ l, ls[s.header]? = some l ∧ v.isHeader l = true := by
  obtain ⟨before, header, body, closer, behind, rfl, hs, -, hh, -⟩ := h
  exact ⟨header, by simp [hs], hh⟩

theorem StandsIn.close? (h : StandsIn v 0 ls s) :
    ∃ l, ls[s.header]? = some l ∧
      Scope.close? v l.indent (s.header + 1) (ls.drop (s.header + 1)) = some (s.closer, s.children) := by
  obtain ⟨l, hl, hh⟩ := h.header_line
  exact ⟨l, hl, (close?_iff_standsIn hl hh s.closer s.children).mpr h⟩

/-- A header opens one scope at most: its closer and the scopes before that are determined. -/
theorem StandsIn.unique (hs : StandsIn v 0 ls s) (ht : StandsIn v 0 ls t)
    (he : s.header = t.header) : s = t := by
  obtain ⟨l, hl, hclose⟩ := hs.close?
  obtain ⟨l', hl', hclose'⟩ := ht.close?
  rw [← he] at hl' hclose'
  obtain rfl := Option.some.inj (hl.symm.trans hl')
  have hsame := Option.some.inj (hclose.symm.trans hclose')
  cases s
  cases t
  cases he
  cases hsame
  rfl

/-- The scopes in a scope lie between its header and its closer, one behind the other. -/
theorem StandsIn.fits (h : StandsIn v 0 ls s) : Fits (s.header + 1) s.closer s.children := by
  obtain ⟨l, -, hclose⟩ := h.close?
  exact (close?_fits hclose).2

theorem Fits.pairwise {lo hi : Nat} {scopes : List Scope} (h : Fits lo hi scopes) :
    scopes.Pairwise fun s t => s.closer < t.header := by
  induction h with
  | nil h => exact List.Pairwise.nil
  | cons h inside behind ihi ihb =>
    refine List.Pairwise.cons ?_ ihb
    intro t ht
    exact (behind.mem_tree t (mem_tree_of_mem ht)).1

/-- A scope is passed over only if its header stands in a scope that was found before. -/
theorem mem_search (h : StandsIn v i ls s)
    (hout : ∀ t ∈ (search v i ls).filterMap Finding.scope?, t.header < s.header → t.closer < s.header) :
    s ∈ (search v i ls).filterMap Finding.scope? := by
  fun_induction search v i ls with
  | case1 i =>
    obtain ⟨before, header, body, closer, behind, hls, -⟩ := h
    simp at hls
  | case2 i l ls hh c inner hc ih =>
    simp only [List.filterMap_cons, Finding.scope?] at hout ⊢
    rcases standsIn_cons_iff.mp h with ⟨-, hs, hclose⟩ | h
    · have hsame := Option.some.inj (hc.symm.trans hclose)
      cases s
      cases hs
      cases hsame
      exact List.mem_cons_self
    · -- The header cannot stand in the scope just found, so the search goes on before it.
      have hbehind : c < s.header := hout _ List.mem_cons_self h.le
      have hfront : i + 1 ≤ c := (close?_fits hc).2.le
      have hnum : i + 1 + (c - i) = c + 1 := by omega
      have hlater := h.drop (k := c - i) (by omega)
      rw [hnum] at hlater
      exact List.mem_cons_of_mem _ (ih hlater fun t ht => hout t (List.mem_cons_of_mem _ ht))
  | case3 i l ls hh hc ih =>
    rcases standsIn_cons_iff.mp h with ⟨-, -, hclose⟩ | h
    · rw [hc] at hclose
      contradiction
    · exact ih h hout
  | case4 i l ls hh ih =>
    rcases standsIn_cons_iff.mp h with ⟨hh', -⟩ | h
    · exact absurd hh' hh
    · exact ih h hout

/-- Of scopes that lie one behind the other, an earlier one ends before a later one starts. -/
theorem Fits.apart {lo hi : Nat} {scopes : List Scope} (h : Fits lo hi scopes) (hs : s ∈ scopes)
    (ht : t ∈ scopes) (hlt : t.header < s.header) : t.closer < s.header := by
  have hne : s ≠ t := by
    rintro rfl
    exact Nat.lt_irrefl _ hlt
  have hsymm : Std.Symm fun s t : Scope => s.closer < t.header ∨ t.closer < s.header :=
    ⟨fun _ _ => Or.symm⟩
  have hpairs : scopes.Pairwise fun s t => s.closer < t.header ∨ t.closer < s.header :=
    h.pairwise.imp Or.inl
  have horder := hpairs.forall hs ht hne
  have hspan := h.mem_tree s (mem_tree_of_mem hs)
  omega

/-- The scopes that are found are those whose headers stand in no scope before them. -/
theorem mem_locate_iff :
    s ∈ locate v ls ↔
      StandsIn v 0 ls s ∧ ∀ t ∈ locate v ls, t.header < s.header → t.closer < s.header := by
  constructor
  · intro hs
    refine ⟨locate_standsIn v ls s (mem_tree_of_mem hs), ?_⟩
    intro t ht hlt
    exact (locate_fits v ls).apart hs ht hlt
  · rintro ⟨h, hout⟩
    exact mem_search h hout

/-- No scope has its header outside of all scopes that are found. -/
theorem StandsIn.header_ne {h : Nat} (hs : StandsIn v 0 ls s)
    (hout : ∀ t ∈ locate v ls, h < t.header ∨ t.closer < h) : s.header ≠ h := by
  rintro rfl
  have hmem : s ∈ locate v ls := by
    refine mem_locate_iff.mpr ⟨hs, ?_⟩
    intro t ht hlt
    exact (hout t ht).resolve_left (Nat.lt_asymm hlt)
  have hspan := (locate_fits v ls).mem_tree s (mem_tree_of_mem hmem)
  have hself := hout s hmem
  omega

/-- The scopes in a scope of a text are scopes of the text as well. -/
theorem StandsIn.children_standIn (h : StandsIn v 0 ls s) : ∀ t ∈ s.children, StandsIn v 0 ls t := by
  obtain ⟨before, header, body, closer, behind, rfl, hs, -, -, -, -, hbody⟩ := h
  intro t ht
  have hinside := hbody.standsIn t (mem_tree_of_mem ht)
  have hnum : s.header + 1 = 0 + (before ++ [header]).length := by
    rw [hs, List.length_append, List.length_singleton, Nat.add_assoc]
  rw [hnum] at hinside
  simpa using hinside.append (before ++ [header]) (closer :: behind)

end Scope

/-- The search behind a header accepts exactly the grammar of scopes, in which a header opens one scope
at most, with the scopes in it between header and closer and apart from each other. The scopes of a
text are found in order and apart from each other. They are all those whose headers stand in no scope
found before, so that a header outside of all that are found opens none. -/
theorem locate_accepts_grammar (v : Vocabulary) (ls : List Line) :
    (∀ h l, ls[h]? = some l → v.isHeader l = true → ∀ c inner,
        Scope.close? v l.indent (h + 1) (ls.drop (h + 1)) = some (c, inner) ↔
          Scope.StandsIn v 0 ls ⟨h, c, inner⟩) ∧
      (∀ s t, Scope.StandsIn v 0 ls s → Scope.StandsIn v 0 ls t → s.header = t.header → s = t) ∧
      (∀ s, Scope.StandsIn v 0 ls s →
        (∀ t ∈ s.children, Scope.StandsIn v 0 ls t ∧
          s.header < t.header ∧ t.header < t.closer ∧ t.closer < s.closer) ∧
        s.children.Pairwise fun t u => t.closer < u.header) ∧
      ((Scope.locate v ls).Pairwise fun s t => s.closer < t.header) ∧
      (∀ s, s ∈ Scope.locate v ls ↔ Scope.StandsIn v 0 ls s ∧
        ∀ t ∈ Scope.locate v ls, t.header < s.header → t.closer < s.header) ∧
      (∀ h l, ls[h]? = some l → v.isHeader l = true →
        (∀ t ∈ Scope.locate v ls, h < t.header ∨ t.closer < h) →
          Scope.close? v l.indent (h + 1) (ls.drop (h + 1)) = none ∧
            ∀ s, Scope.StandsIn v 0 ls s → s.header ≠ h) := by
  refine ⟨?_, ?_, ?_, (Scope.locate_fits v ls).pairwise, fun s => Scope.mem_locate_iff, ?_⟩
  · intro h l hl hh c inner
    exact Scope.close?_iff_standsIn hl hh c inner
  · intro s t hs ht he
    exact hs.unique ht he
  · intro s hs
    refine ⟨?_, hs.fits.pairwise⟩
    intro t ht
    exact ⟨hs.children_standIn t ht, hs.fits.mem_tree t (Scope.mem_tree_of_mem ht)⟩
  · intro h l hl hh hout
    have hnone : ∀ s, Scope.StandsIn v 0 ls s → s.header ≠ h := fun s hs => hs.header_ne hout
    refine ⟨?_, hnone⟩
    cases hclose : Scope.close? v l.indent (h + 1) (ls.drop (h + 1)) with
    | none => rfl
    | some found =>
      obtain ⟨c, inner⟩ := found
      exact absurd rfl (hnone _ ((Scope.close?_iff_standsIn hl hh c inner).mp hclose))

/-- A scope with another one in it, and behind it a header whose block holds one without a closer. -/
def Scope.halfClosed : List Line :=
  ["group :a do\n", "  group :b do\n", "    gem 'x'\n", "  end\n", "end\n", "group :c do\n",
    "  group :d do\n", "end\n"].map String.toList

set_option maxRecDepth 20000 in
/-- The first header opens a scope with the second one's in it. The inner header without a closer opens
none, and so does the one around it, although a closer at its indent follows. -/
theorem locate_accepts_grammar_unclosed :
    Scope.locate .standard Scope.halfClosed = [⟨0, 4, [⟨1, 3, []⟩]⟩] ∧
      Scope.StandsIn .standard 0 Scope.halfClosed ⟨0, 4, [⟨1, 3, []⟩]⟩ ∧
      Scope.StandsIn .standard 0 Scope.halfClosed ⟨1, 3, []⟩ ∧
      (∀ s, Scope.StandsIn .standard 0 Scope.halfClosed s → s.header ≠ 5) ∧
      ∀ s, Scope.StandsIn .standard 0 Scope.halfClosed s → s.header ≠ 6 := by
  have hlocate : Scope.locate .standard Scope.halfClosed = [⟨0, 4, [⟨1, 3, []⟩]⟩] := by cbv
  have hheader : Vocabulary.standard.isHeader "group :c do\n".toList = true := by cbv
  have hheader' : Vocabulary.standard.isHeader "  group :d do\n".toList = true := by cbv
  obtain ⟨-, -, hchildren, -, hmem, hnone⟩ := locate_accepts_grammar .standard Scope.halfClosed
  have hstands := ((hmem ⟨0, 4, [⟨1, 3, []⟩]⟩).mp (by simp [hlocate])).1
  refine ⟨hlocate, hstands, ((hchildren _ hstands).1 ⟨1, 3, []⟩ (by simp)).1, ?_, ?_⟩
  · exact (hnone 5 _ rfl hheader (by simp [hlocate])).2
  · exact (hnone 6 _ rfl hheader' (by simp [hlocate])).2

end GemOrder

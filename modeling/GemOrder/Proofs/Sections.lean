import GemOrder.Proofs.Rereading
import GemOrder.Proofs.Windows
import Mathlib

namespace GemOrder

variable {v : Vocabulary}

namespace Vocabulary

/-- A line at the margin that starts a statement and is nothing else that sorting knows of. -/
structure IsDirective (v : Vocabulary) (l : Line) : Prop where
  indent : l.indent = 0
  isStarter : v.isStarter l = true
  isBlank : l.isBlank = false
  isComment : v.isComment l = false
  isDeclaration : v.isDeclaration l = false
  isHeader : v.isHeader l = false
  isCloser : v.isCloser l = false

variable {d : Line}

theorem IsDirective.not_formatting (h : v.IsDirective d) : v.isFormatting d = false := by
  rw [isFormatting, h.isBlank, h.isComment, Bool.or_self]

theorem IsDirective.not_live (h : v.IsDirective d) : v.isLive d = false := by
  rw [isLive, h.not_formatting, h.isDeclaration, Bool.or_self]

/-- A directive continues no statement, since nothing is indented less. -/
theorem IsDirective.not_continues (h : v.IsDirective d) (first : Line) :
    v.continues first d = false := by
  simp [continues, h.indent, h.isStarter]

end Vocabulary

namespace Region

theorem Scanned.not_mem_directive {d : Line} (hd : v.IsDirective d) {ls trailing left : List Line}
    {es : List Entry} (h : Scanned v ls es trailing left) :
    d ∉ es.flatMap Entry.lines ++ trailing := by
  intro hm
  rcases List.mem_append.mp hm with hm | hm
  · obtain ⟨e, he, hm⟩ := List.mem_flatMap.mp hm
    have hf := h.formed e he
    obtain ⟨first, tail, hs, hdecl, ht, -⟩ := hf.statement
    simp only [Entry.lines, hs, List.mem_append, List.mem_cons] at hm
    rcases hm with (hm | hm) | rfl | hm
    · simpa [hd.isBlank] using hf.blanks d hm
    · simpa [hd.not_formatting] using hf.formatting d hm
    · simp [hd.isDeclaration] at hdecl
    · simpa [hd.not_continues] using ht d hm
  · simpa [hd.not_formatting] using h.trailing_formatting d hm

/-- Reading stops at a directive or before it, whatever follows. -/
theorem scan_directive {d : Line} (hd : v.IsDirective d) (xs ys : List Line) :
    ∃ left, (scan v (xs ++ [d])).2.2 = left ++ [d] ∧
      scan v (xs ++ d :: ys) =
        ((scan v (xs ++ [d])).1, (scan v (xs ++ [d])).2.1, left ++ d :: ys) := by
  have hs := scan_scanned v (xs ++ [d])
  have hl := hs.lines
  have hmem : d ∈ (scan v (xs ++ [d])).2.2 := by
    have hall : d ∈ xs ++ [d] := by simp
    rw [hl] at hall
    exact (List.mem_append.mp hall).resolve_left (hs.not_mem_directive hd)
  rcases List.eq_nil_or_concat (scan v (xs ++ [d])).2.2 with hnil | ⟨left, last, hleft⟩
  · simp [hnil] at hmem
  · rw [List.concat_eq_append] at hleft
    rw [hleft, ← List.append_assoc] at hl
    obtain ⟨hxs, hlast⟩ := List.append_inj' hl rfl
    obtain rfl : d = last := by simpa using hlast
    refine ⟨left, hleft, ?_⟩
    rw [hleft] at hs
    have hhead : (left ++ d :: ys).head? = (left ++ [d]).head? := by cases left <;> rfl
    have hmore := hs.replace_left hhead
    rw [← List.append_assoc, ← hxs] at hmore
    exact hmore.scan_eq

theorem read_directive {d : Line} (hd : v.IsDirective d) (i : Nat) (next next' : Option Line)
    (xs ys : List Line) : read v i next (xs ++ d :: ys) = read v i next' (xs ++ [d]) := by
  obtain ⟨left, hleft, hscan⟩ := scan_directive hd xs ys
  have hempty : (left ++ d :: ys).isEmpty = false ∧ (left ++ [d]).isEmpty = false := by simp
  simp only [read, hscan, hleft, hempty, Bool.and_false, Bool.false_and]

end Region

namespace Scope

theorem Fits.outermost {lo hi : Nat} {scopes : List Scope} (h : Fits lo hi scopes) :
    ∀ s ∈ tree scopes, ∃ t ∈ scopes, t.header ≤ s.header ∧ s.closer ≤ t.closer := by
  induction h with
  | nil h => simp [tree]
  | @cons lo hi header closer children scopes h inside behind ihi ihb =>
    intro s hs
    simp only [tree, List.mem_cons, List.mem_append] at hs
    rcases hs with rfl | hs | hs
    · exact ⟨_, by simp, Nat.le_refl _, Nat.le_refl _⟩
    · have := inside.mem_tree s hs
      refine ⟨⟨header, closer, children⟩, by simp, ?_, ?_⟩ <;> dsimp only <;> omega
    · obtain ⟨t, ht, hst⟩ := ihb s hs
      exact ⟨t, by simp [ht], hst⟩

/-- Every header among some lines opens a scope of theirs or lies in one. -/
def AllClosed (v : Vocabulary) (ls : List Line) : Prop :=
  ∀ (j : Nat) (h : j < ls.length), v.isHeader ls[j] = true →
    ∃ s ∈ tree (locate v ls), s.header ≤ j ∧ j < s.closer

/-- Lines whose headers are all closed have no part in the scopes of the lines behind them. -/
theorem search_append {i : Nat} {xs : List Line} (ys : List Line)
    (h : ∀ j l, xs[j]? = some l → v.isHeader l = true →
      ∃ s ∈ (search v i xs).filterMap Finding.scope?, s.header ≤ i + j ∧ i + j < s.closer) :
    search v i (xs ++ ys) = search v i xs ++ search v (i + xs.length) ys := by
  fun_induction search v i xs with
  | case1 i => rfl
  | case2 i l ls hh c inner hc ih =>
    obtain ⟨hlt, hin⟩ := close?_fits hc
    have hle := hin.le
    have hdrop : (ls ++ ys).drop (c - i) = ls.drop (c - i) ++ ys :=
      List.drop_append_of_le_length (by omega)
    have hnum : c + 1 + (ls.drop (c - i)).length = i + (l :: ls).length := by
      rw [List.length_drop, List.length_cons]
      omega
    rw [List.cons_append, search, if_pos hh, close?_append hc]
    dsimp only
    rw [hdrop, ih, hnum, List.cons_append]
    intro j k hk hkh
    have hplace : (l :: ls)[c - i + j + 1]? = some k := by
      rw [List.getElem?_cons_succ, ← List.getElem?_drop]
      exact hk
    obtain ⟨s, hs, hbefore, hbehind⟩ := h _ k hplace hkh
    rcases List.mem_cons.mp hs with rfl | hs
    · -- the line stands behind the scope that was found first
      dsimp only at hbehind
      omega
    · exact ⟨s, hs, by omega, by omega⟩
  | case3 i l ls hh hc ih =>
    obtain ⟨s, hs, hbefore, -⟩ := h 0 l rfl hh
    have hlater := (search_fits v (i + 1) ls).mem_tree s (mem_tree_of_mem hs)
    omega
  | case4 i l ls hh ih =>
    rw [List.cons_append, search, if_neg hh, ih, List.length_cons, Nat.add_assoc, Nat.add_comm 1]
    intro j k hk hkh
    obtain ⟨s, hs, hbefore, hbehind⟩ := h (j + 1) k hk hkh
    exact ⟨s, hs, by omega, by omega⟩

theorem AllClosed.locate_append {xs : List Line} (h : AllClosed v xs) (ys : List Line) :
    locate v (xs ++ ys) = locate v xs ++ (search v xs.length ys).filterMap Finding.scope? := by
  rw [locate, search_append, List.filterMap_append, Nat.zero_add]
  · rfl
  · intro j l hj hl
    obtain ⟨hlt, rfl⟩ := List.getElem?_eq_some_iff.mp hj
    obtain ⟨s, hs, hbefore, hbehind⟩ := h j hlt hl
    obtain ⟨t, ht, hhead, hend⟩ := (locate_fits v xs).outermost s hs
    exact ⟨t, ht, by omega, by omega⟩

end Scope

namespace Sorter

variable {d : Line}

theorem opensRegion_directive (hd : v.IsDirective d) (xs ys : List Line) :
    opensRegion v (xs ++ d :: ys) = opensRegion v (xs ++ [d]) := by
  apply opensRegion_append
  · rfl
  · simpa using hd.not_live

/-- Lines without a scope fall into two parts at a directive. -/
theorem runFrom_directive (hd : v.IsDirective d) (next next' : Option Line) (i : Nat)
    (xs ys : List Line) :
    runFrom v next i (xs ++ d :: ys) =
      runFrom v next' i (xs ++ [d]) ++ runFrom v next (i + xs.length + 1) ys := by
  induction hn : xs.length using Nat.strong_induction_on generalizing i xs with
  | _ n ih =>
    cases ho : opensRegion v (xs ++ [d]) with
    | true =>
      obtain ⟨left, hleft, hscan⟩ := Region.scan_directive hd xs ys
      have hread := Region.read_directive hd i next next' xs ys
      have hl := congrArg List.length (Region.read_lines v i next' (xs ++ [d]))
      have hne := List.length_pos_iff.mpr (read_lines_ne ho i next')
      rw [hleft] at hl
      simp only [List.length_append, List.length_singleton] at hl
      have hnum : (Region.read v i next' (xs ++ [d])).stop + left.length + 1 = i + n + 1 := by
        rw [Region.stop, Region.read_start]
        omega
      rw [runFrom_region (opensRegion_directive hd xs ys ▸ ho), runFrom_region ho, hread, hscan, hleft,
        ih left.length (by omega) _ left rfl, hnum, List.cons_append]
    | false =>
      cases xs with
      | nil =>
        have hno : opensRegion v (d :: ys) = false := (opensRegion_directive hd [] ys).trans ho
        rw [List.nil_append, List.nil_append, runFrom_text hno, runFrom_text ho, runFrom]
        subst hn
        rfl
      | cons l xs =>
        have hno : opensRegion v (l :: (xs ++ d :: ys)) = false :=
          (opensRegion_directive hd (l :: xs) ys).trans ho
        have hnum : i + 1 + xs.length + 1 = i + n + 1 := by
          rw [← hn, List.length_cons]
          omega
        rw [List.cons_append] at ho ⊢
        rw [List.cons_append, runFrom_text hno, runFrom_text ho, ih xs.length (by simp [← hn]) _ xs rfl,
          hnum, List.cons_append]

variable {before behind : List Line}

theorem slice_to_directive (behind : List Line) {start : Nat} (hs : start ≤ before.length) :
    slice (before ++ d :: behind) start (before.length + 1) = before.drop start ++ [d] := by
  have hlen : before.length + 1 - start = (before.drop start).length + 1 := by
    rw [List.length_drop]
    omega
  rw [slice, List.drop_append_of_le_length hs, hlen, List.take_length_add_append]
  rfl

theorem run_directive (hd : v.IsDirective d) {start stop : Nat} (hs : start ≤ before.length)
    (ht : before.length + 1 ≤ stop) :
    run v (before ++ d :: behind) start stop = run v (before ++ [d]) start (before.length + 1) ++
      run v (before ++ d :: behind) (before.length + 1) stop := by
  have hslice : slice (before ++ d :: behind) start stop =
      before.drop start ++ d :: slice (before ++ d :: behind) (before.length + 1) stop := by
    rw [← slice_append (by omega) ht, slice_to_directive behind hs]
    simp
  have hnum : start + (before.drop start).length + 1 = before.length + 1 := by
    rw [List.length_drop]
    omega
  rw [run, run, run, hslice, slice_to_directive [] hs, ← hnum]
  exact runFrom_directive hd _ _ _ _ _

/-- A directive behind some scopes divides what is written of the lines around it. -/
theorem span_directive (hd : v.IsDirective d) {start stop : Nat} {scopes later : List Scope}
    (h : Scope.Fits start before.length scopes) (hl : Scope.Fits (before.length + 1) stop later) :
    (span v (before ++ d :: behind) start stop (scopes ++ later)).flatMap Piece.render =
      (span v (before ++ [d]) start (before.length + 1) scopes).flatMap Piece.render ++
        (span v (before ++ d :: behind) (before.length + 1) stop later).flatMap Piece.render := by
  obtain ⟨n, hn⟩ : ∃ n, n = before.length := ⟨_, rfl⟩
  rw [← hn] at h
  induction h with
  | nil h =>
    rw [hn] at h
    cases hl with
    | nil ht =>
      rw [List.nil_append, span, span, span, run_directive hd h ht, List.flatMap_append]
    | cons ht inside rest =>
      rw [List.nil_append, span, span, span, run_directive hd h ht]
      simp only [List.flatMap_append, List.append_assoc]
  | @cons lo hi header closer children scopes h inside rest ihi ihb =>
    have hin := inside.le
    have hre := rest.le
    -- before the directive, the two texts have the same lines
    have htake : before ++ [d] = (before ++ d :: behind).take (before.length + 1) := by
      rw [List.take_length_add_append]
      rfl
    have hsame {a b : Nat} {scopes : List Scope} (hf : Scope.Fits a b scopes) (hb : b < before.length) :
        (span v (before ++ [d]) a b scopes).flatMap Piece.render =
          (span v (before ++ d :: behind) a b scopes).flatMap Piece.render := by
      rw [htake]
      exact span_take hf (by omega)
    have hrun := hsame (.nil h) (by omega)
    rw [span, span] at hrun
    have hone {i : Nat} (hi : i < before.length) :
        slice (before ++ [d]) i (i + 1) = slice (before ++ d :: behind) i (i + 1) := by
      rw [htake]
      exact slice_take (by omega)
    have hh := hone (show header < before.length by omega)
    have hc := hone (show closer < before.length by omega)
    simp only [List.cons_append, span, List.flatMap_append, List.flatMap_cons, Piece.render, ihb hn, hrun,
      hsame inside (by omega), hh, hc, List.append_assoc]

/-- What stands before a directive and what stands behind it are sorted independently. -/
theorem sortLines_directive (hd : v.IsDirective d) (hc : Scope.AllClosed v before) :
    sortLines v (before ++ d :: behind) = sortLines v (before ++ [d]) ++ sortLines v behind := by
  have hskip (ls : List Line) : (Scope.search v before.length (d :: ls)).filterMap Scope.Finding.scope? =
      Scope.shift (before.length + 1) (Scope.locate v ls) := by
    rw [Scope.search, hd.isHeader, ← Scope.search_eq_shift]
    simp
  have hnone : Scope.locate v (before ++ [d]) = Scope.locate v before := by
    rw [hc.locate_append, hskip]
    simp [Scope.locate, Scope.search, Scope.shift]
  have hlen : (before ++ d :: behind).length = behind.length + (before.length + 1) := by
    rw [List.length_append, List.length_cons]
    omega
  have hfits : Scope.Fits (before.length + 1) (behind.length + (before.length + 1))
      (Scope.shift (before.length + 1) (Scope.locate v behind)) := by
    rw [← Scope.search_eq_shift, Nat.add_comm behind.length]
    exact Scope.search_fits v (before.length + 1) behind
  have hbehind : (span v (before ++ d :: behind) (before.length + 1) (behind.length + (before.length + 1))
      (Scope.shift (before.length + 1) (Scope.locate v behind))).flatMap Piece.render =
        sortLines v behind := by
    apply span_part _ rfl
    · rw [List.getElem?_eq_none (by omega)]
      rfl
    · have h := slice_middle (before ++ [d]) behind []
      rw [List.append_nil, List.length_append, List.length_singleton, List.append_assoc] at h
      rw [Nat.add_comm behind.length]
      exact h
  have hbefore : sortLines v (before ++ [d]) =
      (span v (before ++ [d]) 0 (before.length + 1) (Scope.locate v before)).flatMap Piece.render := by
    rw [sortLines, pieces, hnone, List.length_append, List.length_singleton]
  rw [sortLines, pieces, hc.locate_append, hskip, hlen,
    span_directive hd (Scope.locate_fits v before) hfits, hbehind, hbefore]

end Sorter

/-- Sections that a directive divides are sorted independently: a text before the directive whose
headers are all closed, and any text behind it. -/
theorem sort_append_directive (v : Vocabulary) {before directive behind : String}
    (hd : v.IsDirective directive.toList) (ht : Line.Terminated directive.toList)
    (hbefore : before.toList = [] ∨ before.toList.getLast? = some '\n')
    (hbehind : behind.toList = [] ∨ behind.toList.getLast? = some '\n')
    (hc : Scope.AllClosed v (Source.split before.toList).lines) :
    v.sort (before ++ directive ++ behind) = v.sort (before ++ directive) ++ v.sort behind := by
  obtain ⟨as, has, ha⟩ := Source.exists_terminated hbefore
  obtain ⟨bs, hbs, hb⟩ := Source.exists_terminated hbehind
  rw [ha, Source.split_flatten has] at hc
  have hfront : ∀ l ∈ as ++ [directive.toList], l.Terminated := by
    intro l hl
    rcases List.mem_append.mp hl with hl | hl
    · exact has l hl
    · rw [List.mem_singleton.mp hl]
      exact ht
  have hall : ∀ l ∈ as ++ directive.toList :: bs, l.Terminated := by
    rw [← List.singleton_append, ← List.append_assoc]
    exact List.forall_mem_append.mpr ⟨hfront, hbs⟩
  apply String.toList_inj.mp
  calc (v.sort (before ++ directive ++ behind)).toList
      = Sorter.sortText v (as ++ directive.toList :: bs).flatten := by
        rw [v.sort_toList, String.toList_append, String.toList_append, ha, hb]
        simp
    _ = (Sorter.sortLines v (as ++ [directive.toList])).flatten ++ (Sorter.sortLines v bs).flatten := by
        rw [Sorter.sortText_flatten hall, Sorter.sortLines_directive hd hc, List.flatten_append]
    _ = Sorter.sortText v (as ++ [directive.toList]).flatten ++ Sorter.sortText v bs.flatten := by
        rw [Sorter.sortText_flatten hfront, Sorter.sortText_flatten hbs]
    _ = (v.sort (before ++ directive) ++ v.sort behind).toList := by
        rw [String.toList_append, v.sort_toList, v.sort_toList, String.toList_append, ha, hb]
        simp

set_option maxRecDepth 20000 in
/-- The comment before the directive would keep its region as it is at the end of a text. -/
theorem sort_append_directive_comment :
    Vocabulary.standard.IsDirective "source 'x'\n".toList ∧
      Scope.AllClosed Vocabulary.standard (Source.split
        "group :t do\n gem 'b'\nend\ngem 'd'\ngem 'c'\n# e\n".toList).lines ∧
      Vocabulary.standard.sort
          ("group :t do\n gem 'b'\nend\ngem 'd'\ngem 'c'\n# e\n" ++ "source 'x'\n" ++
            "gem 'b'\ngem 'a'\n") =
        Vocabulary.standard.sort
          ("group :t do\n gem 'b'\nend\ngem 'd'\ngem 'c'\n# e\n" ++ "source 'x'\n") ++
        Vocabulary.standard.sort "gem 'b'\ngem 'a'\n" := by
  have hd : Vocabulary.standard.IsDirective "source 'x'\n".toList := by
    constructor <;> decide +kernel
  have hloc : Scope.locate Vocabulary.standard (Source.split
      "group :t do\n gem 'b'\nend\ngem 'd'\ngem 'c'\n# e\n".toList).lines = [⟨0, 2, []⟩] := by cbv
  have hc : Scope.AllClosed Vocabulary.standard (Source.split
      "group :t do\n gem 'b'\nend\ngem 'd'\ngem 'c'\n# e\n".toList).lines := by
    rw [Scope.AllClosed, hloc]
    simp only [Scope.tree, List.append_nil]
    decide +kernel
  exact ⟨hd, hc, sort_append_directive _ hd ⟨"source 'x'".toList, by decide, rfl⟩ (by decide) (by decide)
    hc⟩

end GemOrder

import GemOrder.Proofs.Grammar
import GemOrder.Proofs.Relocation

namespace GemOrder

variable {v : Vocabulary}

theorem slice_slice {ls : List Line} {k m a b : Nat} (h : b + k ≤ m) :
    slice (slice ls k m) a b = slice ls (a + k) (b + k) := by
  have hlen : b + k - (a + k) = b - a := by omega
  have hmin : min (b - a) (m - k - a) = b - a := by omega
  rw [slice, slice, slice, List.drop_take, List.drop_drop, List.take_take, hlen, hmin,
    Nat.add_comm k a]

theorem slice_getElem? {ls : List Line} {k m i : Nat} (h : i + k < m) :
    (slice ls k m)[i]? = ls[i + k]? := by
  rw [slice, List.getElem?_take_of_lt (by omega), List.getElem?_drop, Nat.add_comm]

theorem slice_take {ls : List Line} {n a b : Nat} (h : b ≤ n) : slice (ls.take n) a b = slice ls a b :=
  @slice_slice ls 0 n a b h

namespace Scope

/-- Scopes with all numbers of lines greater by `k`. -/
def shift (k : Nat) : List Scope → List Scope
  | [] => []
  | ⟨header, closer, children⟩ :: scopes =>
    ⟨header + k, closer + k, shift k children⟩ :: shift k scopes

theorem shift_zero (scopes : List Scope) : shift 0 scopes = scopes := by
  fun_induction shift 0 scopes with
  | case1 => rfl
  | case2 header closer children scopes ih1 ih2 => rw [ih1, ih2, Nat.add_zero, Nat.add_zero]

/-- The search counts on from any number in the same way. -/
theorem close?_shift (v : Vocabulary) (k depth i : Nat) (ls : List Line) :
    close? v depth (i + k) ls =
      (close? v depth i ls).map fun (c, inner) => (c + k, shift k inner) := by
  fun_induction close? v depth i ls with
  | case1 => rw [close?, Option.map_none]
  | case2 depth i l ls hh hc ih =>
    rw [hc, Nat.add_right_comm] at ih
    rw [close?, if_pos hh, ih]
    rfl
  | case3 depth i l ls hh c inner hc ih1 ih2 =>
    rw [hc, Nat.add_right_comm] at ih1
    rw [Nat.add_right_comm] at ih2
    have hdrop : c + k - (i + k) = c - i := by omega
    rw [close?, if_pos hh, ih1]
    simp only [Option.map_some, hdrop, ih2, Option.map_map, Function.comp_def, shift]
  | case4 depth i l ls hh hc =>
    rw [close?, if_neg hh, if_pos hc]
    simp only [Option.map_some, shift]
  | case5 depth i l ls hh hc ih =>
    rw [Nat.add_right_comm] at ih
    rw [close?, if_neg hh, if_neg hc, ih]

theorem search_shift (v : Vocabulary) (k i : Nat) (ls : List Line) :
    (search v (i + k) ls).filterMap Finding.scope? =
      shift k ((search v i ls).filterMap Finding.scope?) := by
  fun_induction search v i ls with
  | case1 => rw [search, List.filterMap_nil, shift]
  | case2 i l ls hh c inner hc ih =>
    have hclose := close?_shift v k l.indent (i + 1) ls
    rw [hc, Nat.add_right_comm] at hclose
    rw [Nat.add_right_comm] at ih
    have hdrop : c + k - (i + k) = c - i := by omega
    rw [search, if_pos hh, hclose]
    simp only [Option.map_some, hdrop, List.filterMap_cons, Finding.scope?, ih, shift]
  | case3 i l ls hh hc ih =>
    have hclose := close?_shift v k l.indent (i + 1) ls
    rw [hc, Nat.add_right_comm] at hclose
    rw [Nat.add_right_comm] at ih
    rw [search, if_pos hh, hclose]
    simp only [Option.map_none, List.filterMap_cons, Finding.scope?, ih]
  | case4 i l ls hh ih =>
    rw [Nat.add_right_comm] at ih
    rw [search, if_neg hh, ih]

/-- The scopes of lines that follow `k` others. -/
theorem search_eq_shift (v : Vocabulary) (k : Nat) (ls : List Line) :
    (search v k ls).filterMap Finding.scope? = shift k (locate v ls) := by
  have h := search_shift v k 0 ls
  rwa [Nat.zero_add] at h

end Scope

/-- How a region is written does not depend on the number of its first line, and of the line behind
its range it only matters whether that ends the range. -/
theorem Region.read_render {next next' : Option Line} (h : endsAt v next = endsAt v next') (i j : Nat)
    (ls : List Line) : (read v i next ls).render = (read v j next' ls).render := by
  have hread : read v j next' ls = { read v i next ls with start := j } := by
    simp only [read, h]
  rw [hread]
  rfl

namespace Sorter

theorem runFrom_render {next next' : Option Line} (h : Region.endsAt v next = Region.endsAt v next')
    (i j : Nat) (ls : List Line) :
    (runFrom v next i ls).flatMap Piece.render = (runFrom v next' j ls).flatMap Piece.render := by
  fun_induction runFrom v next i ls generalizing j with
  | case1 i => rw [runFrom]
  | case2 i l ls ho r ih =>
    rw [drop_read ho] at ih ⊢
    rw [runFrom_region ho, List.flatMap_cons, List.flatMap_cons, Piece.render, Piece.render,
      Region.read_render h i j, ih]
  | case3 i l ls ho ih =>
    rw [runFrom_text (Bool.eq_false_iff.mpr ho), List.flatMap_cons, List.flatMap_cons, ih]

variable {ls : List Line} {k m a b : Nat}

theorem run_slice (hb : b + k ≤ m)
    (hend : Region.endsAt v ls[b + k]? = Region.endsAt v (slice ls k m)[b]?) :
    (run v ls (a + k) (b + k)).flatMap Piece.render =
      (run v (slice ls k m) a b).flatMap Piece.render := by
  rw [run, run, slice_slice hb]
  exact runFrom_render hend _ _ _

/-- A range of lines is written in the same way in the whole text and in a part of it. -/
theorem span_slice {scopes : List Scope} (h : Scope.Fits a b scopes) (hb : b + k ≤ m)
    (hend : Region.endsAt v ls[b + k]? = Region.endsAt v (slice ls k m)[b]?) :
    (span v ls (a + k) (b + k) (Scope.shift k scopes)).flatMap Piece.render =
      (span v (slice ls k m) a b scopes).flatMap Piece.render := by
  induction h with
  | nil h =>
    rw [Scope.shift, span, span]
    exact run_slice hb hend
  | @cons lo hi header closer children scopes h inside behind ihi ihb =>
    have hin := inside.le
    have hbe := behind.le
    have hheader : (slice ls k m)[header]? = ls[header + k]? := slice_getElem? (by omega)
    have hcloser : (slice ls k m)[closer]? = ls[closer + k]? := slice_getElem? (by omega)
    have hone {i : Nat} (hi : i + 1 + k ≤ m) :
        slice (slice ls k m) i (i + 1) = slice ls (i + k) (i + k + 1) := by
      rw [slice_slice hi, Nat.add_right_comm]
    have hfront : (run v ls (lo + k) (header + k)).flatMap Piece.render =
        (run v (slice ls k m) lo header).flatMap Piece.render := run_slice (by omega) (by rw [hheader])
    have hbody := ihi (by omega) (by rw [hcloser])
    have hrest := ihb hb hend
    rw [Nat.add_right_comm] at hbody hrest
    simp only [Scope.shift, span, List.flatMap_append, List.flatMap_cons, Piece.render, hfront, hbody,
      hrest, hone (show header + 1 + k ≤ m by omega), hone (show closer + 1 + k ≤ m by omega)]

/-- A part of a text that ends at a closer or with the text is written as a text of its own would be. -/
theorem span_part {part : List Line} (hslice : slice ls k m = part) (hlen : m = part.length + k)
    (hend : Region.endsAt v ls[m]? = true) :
    (span v ls k m (Scope.shift k (Scope.locate v part))).flatMap Piece.render = sortLines v part := by
  have hnext : Region.endsAt v ls[part.length + k]? =
      Region.endsAt v (slice ls k m)[part.length]? := by
    rw [hslice, ← hlen, hend, List.getElem?_eq_none (Nat.le_refl _)]
    rfl
  have h := span_slice (Scope.locate_fits v part) (Nat.le_of_eq hlen.symm) hnext
  rwa [Nat.zero_add, ← hlen, hslice] at h

/-- Lines behind the one that follows a range have no part in what is written of it. -/
theorem span_take {n : Nat} {scopes : List Scope} (h : Scope.Fits a b scopes) (hb : b < n) :
    (span v (ls.take n) a b scopes).flatMap Piece.render =
      (span v ls a b scopes).flatMap Piece.render := by
  have hend : Region.endsAt v ls[b + 0]? = Region.endsAt v (slice ls 0 n)[b]? := by
    rw [slice_getElem? hb]
  have hspan := span_slice h (Nat.le_of_lt hb) hend
  rw [Scope.shift_zero] at hspan
  exact hspan.symm

/-- The pieces of a scope's body stand among those of the whole. -/
theorem span_split {start stop : Nat} {scopes : List Scope} (h : Scope.Fits start stop scopes)
    (hstop : stop ≤ ls.length) :
    ∀ s ∈ Scope.tree scopes, ∃ before behind,
      span v ls start stop scopes = before ++ span v ls (s.header + 1) s.closer s.children ++ behind ∧
        start + (before.flatMap Piece.lines).length = s.header + 1 := by
  induction h with
  | nil h => simp [Scope.tree]
  | @cons lo hi header closer children scopes h inside behind ihi ihb =>
    have hin := inside.le
    have hbe := behind.le
    have hrun : ((run v ls lo header).flatMap Piece.lines).length = header - lo := run_length (by omega)
    have hone {i : Nat} (hi : i < ls.length) : (slice ls i (i + 1)).length = 1 := by
      rw [slice_length (by omega)]
      omega
    have hbody := span_length (v := v) inside (show closer ≤ ls.length by omega)
    intro s hs
    simp only [Scope.tree, List.mem_cons, List.mem_append] at hs
    rcases hs with rfl | hs | hs
    · refine ⟨run v ls lo header ++ [.text (slice ls header (header + 1))],
        .text (slice ls closer (closer + 1)) :: span v ls (closer + 1) hi scopes, ?_, ?_⟩
      · rw [span]
        simp only [List.append_assoc, List.cons_append, List.nil_append]
      · simp only [List.flatMap_append, List.flatMap_singleton, Piece.lines, List.length_append, hrun,
          hone (show header < ls.length by omega)]
        omega
    · obtain ⟨before, after, he, hlen⟩ := ihi (by omega) s hs
      refine ⟨run v ls lo header ++ .text (slice ls header (header + 1)) :: before,
        after ++ .text (slice ls closer (closer + 1)) :: span v ls (closer + 1) hi scopes, ?_, ?_⟩
      · rw [span, he]
        simp only [List.append_assoc, List.cons_append]
      · simp only [List.flatMap_append, List.flatMap_cons, Piece.lines, List.length_append, hrun,
          hone (show header < ls.length by omega)]
        omega
    · obtain ⟨before, after, he, hlen⟩ := ihb hstop s hs
      refine ⟨run v ls lo header ++ .text (slice ls header (header + 1)) ::
        span v ls (header + 1) closer children ++ .text (slice ls closer (closer + 1)) :: before,
        after, ?_, ?_⟩
      · rw [span, he]
        simp only [List.append_assoc, List.cons_append]
      · simp only [List.flatMap_append, List.flatMap_cons, Piece.lines, List.length_append, hrun, hbody,
          hone (show header < ls.length by omega), hone (show closer < ls.length by omega)]
        omega

/-- A text of terminated lines is sorted line by line. -/
theorem sortText_flatten (h : ∀ l ∈ ls, l.Terminated) :
    sortText v ls.flatten = (sortLines v ls).flatten := by
  rw [sortText, Source.split_flatten h]
  exact Source.join_of_append _ (List.append_nil _).symm

/-- The lines of a sorted text before the last one are exactly those that were written. -/
theorem slice_sortText {text : List Char} {start stop : Nat}
    (h : stop < (Source.split text).lines.length) :
    slice (Source.split (sortText v text)).lines start stop =
      slice (sortLines v (Source.split text).lines) start stop := by
  have hlen := (sortLines_perm v (Source.split text).lines).length_eq
  have htake := Source.split_join_take text (sortLines_terminated (v := v) (Source.split_terminated text))
  rw [hlen] at htake
  have hstop : stop ≤ (Source.split text).lines.length - 1 := by omega
  rw [sortText, ← slice_take hstop, htake, slice_take hstop]

end Sorter

end GemOrder

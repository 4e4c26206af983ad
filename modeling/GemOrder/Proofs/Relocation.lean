import GemOrder.Proofs.Layout
import Mathlib.Data.List.Perm.Basic

namespace GemOrder

variable {v : Vocabulary}

/-- The line with number `i` belongs to a region. -/
def Region.Covers (r : Region) (i : Nat) : Prop :=
  r.start ≤ i ∧ i < r.stop

namespace Piece

theorem render_perm (p : Piece) : p.render.Perm p.lines := by
  cases p with
  | text ls => exact .refl _
  | region r => exact r.render_perm

@[simp] theorem render_length (ps : List Piece) :
    (ps.flatMap Piece.render).length = (ps.flatMap Piece.lines).length :=
  (List.Perm.flatMap_left ps fun p _ => p.render_perm).length_eq

variable {i : Nat} {ls : List Line} {ps : List Piece}

theorem Layout.perm (h : Layout v i ls ps) : (ps.flatMap Piece.render).Perm ls := by
  rw [← h.lines]
  exact List.Perm.flatMap_left ps fun p _ => p.render_perm

theorem Layout.tail {p : Piece} (h : Layout v i ls (p :: ps)) :
    Layout v (i + p.lines.length) (ps.flatMap Piece.lines) ps where
  lines := rfl
  placed := h.placed.2
  formed := by
    intro r hr
    apply h.formed r
    rw [List.mem_filterMap] at hr ⊢
    obtain ⟨q, hq, he⟩ := hr
    exact ⟨q, by simp [hq], he⟩

theorem Layout.region_start {r : Region} {before behind : List Piece}
    (h : Layout v i ls (before ++ .region r :: behind)) :
    r.start = i + (before.flatMap Piece.lines).length :=
  (placed_append.mp h.placed).2.1 r (by simp [region?])

/-- A region starts behind the lines of the pieces before it. -/
theorem Layout.split {r : Region} (h : Layout v i ls ps) (hr : r ∈ ps.filterMap Piece.region?) :
    ∃ before behind, ps = before ++ .region r :: behind ∧
      r.start = i + (before.flatMap Piece.lines).length := by
  obtain ⟨p, hp, he⟩ := List.mem_filterMap.mp hr
  cases p with
  | text ls => contradiction
  | region q =>
    cases he
    obtain ⟨before, behind, rfl⟩ := List.append_of_mem hp
    exact ⟨before, behind, rfl, h.region_start⟩

theorem Layout.bounds {r : Region} (h : Layout v i ls ps) (hr : r ∈ ps.filterMap Piece.region?) :
    i ≤ r.start ∧ r.stop ≤ i + ls.length := by
  obtain ⟨before, behind, rfl, hs⟩ := h.split hr
  have hl := h.lines
  simp only [List.flatMap_append, List.flatMap_cons, Piece.lines] at hl
  rw [Region.stop, hs, ← hl]
  simp only [List.length_append]
  omega

/-- The lines of a region are found where it says, before sorting and after. -/
theorem Layout.slices {r : Region} (h : Layout v 0 ls ps) (hr : r ∈ ps.filterMap Piece.region?) :
    slice ls r.start r.stop = r.lines ∧
      slice (ps.flatMap Piece.render) r.start r.stop = r.render := by
  obtain ⟨before, behind, rfl, hs⟩ := h.split hr
  have hl := h.lines
  simp only [List.flatMap_append, List.flatMap_cons, Piece.lines, Piece.render] at hl ⊢
  rw [Nat.zero_add] at hs
  constructor
  · rw [Region.stop, hs, ← hl, ← List.append_assoc]
    exact slice_middle _ _ _
  · rw [Region.stop, hs, ← render_length before, ← r.render_length, ← List.append_assoc]
    exact slice_middle _ _ _

/-- A line outside the regions that can be sorted stays as it is. -/
theorem Layout.outside (h : Layout v i ls ps) (k : Nat)
    (hk : ∀ r ∈ ps.filterMap Piece.region?, r.sortable = true → ¬ r.Covers (i + k)) :
    (ps.flatMap Piece.render)[k]? = ls[k]? := by
  induction ps generalizing i ls k with
  | nil => simp [← h.lines]
  | cons p ps ih =>
    rw [← h.lines, List.flatMap_cons, List.flatMap_cons]
    have hlen := p.render_perm.length_eq
    by_cases hin : k < p.lines.length
    · rw [List.getElem?_append_left hin, List.getElem?_append_left (by omega)]
      have hsame : p.render = p.lines := by
        cases p with
        | text ls => rfl
        | region r =>
          have hstart : r.start = i := h.placed.1 r (by simp [region?])
          have hcov : r.Covers (i + k) := by
            rw [Region.Covers, Region.stop, hstart]
            exact ⟨Nat.le_add_right i k, Nat.add_lt_add_left hin i⟩
          have hns : r.sortable = false := by
            apply Bool.eq_false_iff.mpr
            intro hsort
            exact hk r (by simp [region?]) hsort hcov
          exact Region.render_of_not_sortable hns
      rw [hsame]
    · rw [List.getElem?_append_right (by omega), List.getElem?_append_right (by omega), hlen]
      apply ih h.tail
      intro r hr
      have hadd : i + p.lines.length + (k - p.lines.length) = i + k := by omega
      rw [hadd]
      apply hk r
      obtain ⟨q, hq, he⟩ := List.mem_filterMap.mp hr
      exact List.mem_filterMap.mpr ⟨q, by simp [hq], he⟩

theorem render_getLast {p : Piece} (h : ∀ r ∈ p.region?, r.Formed v) :
    p.render.getLast? = p.lines.getLast? ∨ ∀ l ∈ p.render.getLast?, l.isBlank = false := by
  cases p with
  | text ls => exact Or.inl rfl
  | region r => exact (h r (by simp [region?])).render_getLast

/-- The last line stays the last, or a line that is not blank takes its place. -/
theorem flatMap_render_getLast {ps : List Piece}
    (h : ∀ r ∈ ps.filterMap Piece.region?, r.Formed v) :
    (ps.flatMap Piece.render).getLast? = (ps.flatMap Piece.lines).getLast? ∨
      ∀ l ∈ (ps.flatMap Piece.render).getLast?, l.isBlank = false := by
  induction ps using List.reverseRecOn with
  | nil => simp
  | append_singleton ps p ih =>
    simp only [List.flatMap_append, List.flatMap_singleton]
    by_cases hp : p.lines = []
    · have hr : p.render = [] := List.perm_nil.mp (hp ▸ p.render_perm)
      rw [hp, hr, List.append_nil, List.append_nil]
      apply ih
      intro r hr
      apply h r
      rw [List.filterMap_append]
      exact List.mem_append_left _ hr
    · have hr : p.render ≠ [] := by
        intro hr
        exact hp (List.nil_perm.mp (hr ▸ p.render_perm))
      rw [List.getLast?_append_of_ne_nil _ hp, List.getLast?_append_of_ne_nil _ hr]
      apply render_getLast (v := v)
      intro r hr
      apply h r
      rw [List.filterMap_append]
      exact List.mem_append_right _ (by simpa using hr)

end Piece

namespace Sorter

/-- A region of a span lies in it and holds no line that opens or closes a scope. -/
theorem span_avoids {ls : List Line} {start stop : Nat} {scopes : List Scope}
    (h : Scope.Fits start stop scopes) (hs : stop ≤ ls.length) :
    ∀ r ∈ (span v ls start stop scopes).filterMap Piece.region?,
      (start ≤ r.start ∧ r.stop ≤ stop) ∧
        ∀ s ∈ Scope.tree scopes, ¬ r.Covers s.header ∧ ¬ r.Covers s.closer := by
  have hrun {a b : Nat} (hab : a ≤ b) (hb : b ≤ ls.length) :
      ∀ r ∈ (run v ls a b).filterMap Piece.region?, a ≤ r.start ∧ r.stop ≤ b := by
    intro r hr
    have := (run_layout v).bounds hr
    rw [slice_length hb] at this
    omega
  induction h with
  | nil h =>
    intro r hr
    rw [span] at hr
    exact ⟨hrun h hs r hr, by simp [Scope.tree]⟩
  | @cons lo hi header closer children scopes h inside behind ihi ihb =>
    have hin := inside.le
    have hbe := behind.le
    intro r hr
    simp only [span, List.filterMap_append, List.filterMap_cons, Piece.region?, List.mem_append] at hr
    rcases hr with (hr | hr) | hr
    · -- the region ends before the scope and all that lies in it or behind it
      have hb := hrun h (by omega) r hr
      refine ⟨by omega, fun s hm => ?_⟩
      have hm' := (Scope.Fits.cons (Nat.le_refl header) inside behind).mem_tree s hm
      simp only [Region.Covers]
      omega
    · obtain ⟨hb, hsub⟩ := ihi (by omega) r hr
      refine ⟨by omega, fun s hm => ?_⟩
      simp only [Scope.tree, List.mem_cons, List.mem_append] at hm
      rcases hm with rfl | hm | hm
      · simp only [Region.Covers]
        omega
      · exact hsub s hm
      · have := behind.mem_tree s hm
        simp only [Region.Covers]
        omega
    · obtain ⟨hb, hsub⟩ := ihb hs r hr
      refine ⟨by omega, fun s hm => ?_⟩
      simp only [Scope.tree, List.mem_cons, List.mem_append] at hm
      rcases hm with rfl | hm | hm
      · simp only [Region.Covers]
        omega
      · have := inside.mem_tree s hm
        simp only [Region.Covers]
        omega
      · exact hsub s hm

/-- Lines that differ from others in the order within regions only: the lines outside the regions that
can be sorted are where they were, and no region reaches over a line that opens or closes a scope. -/
structure Relocated (v : Vocabulary) (ls out : List Line) : Prop where
  length : out.length = ls.length
  outside : ∀ i, (∀ r ∈ regions v ls, r.sortable = true → ¬ r.Covers i) → out[i]? = ls[i]?
  within : ∀ r ∈ regions v ls, r.stop ≤ ls.length ∧ slice ls r.start r.stop = r.lines ∧
    (r.sortable = true → (slice out r.start r.stop).Perm (slice ls r.start r.stop))
  apart : ∀ r ∈ regions v ls, ∀ s ∈ Scope.tree (Scope.locate v ls),
    ¬ r.Covers s.header ∧ ¬ r.Covers s.closer

theorem sortLines_perm (v : Vocabulary) (ls : List Line) : (sortLines v ls).Perm ls :=
  (pieces_layout v ls).perm

theorem sortLines_terminated {ls : List Line} (h : ∀ l ∈ ls, l.Terminated) :
    ∀ l ∈ sortLines v ls, l.Terminated :=
  fun l hl => h l ((sortLines_perm v ls).mem_iff.mp hl)

theorem sortLines_getLast (v : Vocabulary) (ls : List Line) :
    (sortLines v ls).getLast? = ls.getLast? ∨ ∀ l ∈ (sortLines v ls).getLast?, l.isBlank = false := by
  have h := pieces_layout v ls
  have hl := Piece.flatMap_render_getLast h.formed
  rw [h.lines] at hl
  exact hl

/-- What completed a text does not come to stand last as a line of its own. -/
theorem sortLines_getLast_ne (v : Vocabulary) (text : List Char) (hne : (Source.split text).added ≠ []) :
    ∀ l ∈ (sortLines v (Source.split text).lines).getLast?, l ≠ (Source.split text).added := by
  intro l hl he
  rcases sortLines_getLast v (Source.split text).lines with h | h
  · rw [h] at hl
    exact Source.split_getLast_ne text hne l hl he
  · have hb := h l hl
    rw [he] at hb
    rcases Source.added_cases text with ha | ha
    · exact hne ha
    · have hall : (Source.split text).added.all Text.isBlank = true :=
        List.all_eq_true.mpr fun c hc => Text.isBlank_of_isEol (ha.isEol c hc)
      rw [Line.isBlank, hall] at hb
      contradiction

/-- The lines of a sorted text hold what the lines were sorted to. -/
theorem cut_sortText (v : Vocabulary) (text : List Char) :
    (Line.cut (sortText v text)).map Line.content =
      (sortLines v (Source.split text).lines).map Line.content :=
  Source.cut_join text (sortLines_terminated (Source.split_terminated text))
    (sortLines_getLast_ne v text)

end Sorter

namespace Vocabulary

/-- A text of a single line has nothing to sort. -/
theorem sortText_single (v : Vocabulary) {text : List Char} (h : '\n' ∉ text) :
    Sorter.sortText v text = text := by
  have hsame : Sorter.sortLines v (Source.split text).lines = (Source.split text).lines := by
    have hp := Sorter.sortLines_perm v (Source.split text).lines
    obtain ⟨ls, rest, hls, -, rfl, hs⟩ := Source.split_cases text
    have hnil : ls = [] := by
      cases ls with
      | nil => rfl
      | cons l ls =>
        obtain ⟨m, -, rfl⟩ := hls l (by simp)
        simp at h
    subst hnil
    rcases hs with ⟨-, hs⟩ | ⟨-, e, -, hs⟩
    · rw [hs] at hp ⊢
      exact List.perm_nil.mp hp
    · rw [hs] at hp ⊢
      exact List.perm_singleton.mp hp
  rw [Sorter.sortText, hsame]
  exact Source.join_split text

theorem sort_toList (v : Vocabulary) (text : String) :
    (v.sort text).toList = Sorter.sortText v text.toList := by
  rw [sort]
  split
  · exact String.toList_ofList
  · rename_i h
    rw [String.contains_char_eq] at h
    exact (sortText_single v (by simpa using h)).symm

end Vocabulary

/-- Sorting moves lines within regions, and the text that comes out has the lines that went in, apart
from how they end. -/
theorem sort_relocates_lines (v : Vocabulary) (text : String) :
    Sorter.Relocated v (Source.split text.toList).lines
        (Sorter.sortLines v (Source.split text.toList).lines) ∧
      (v.sort text).toList = (Source.split text.toList).join
        (Sorter.sortLines v (Source.split text.toList).lines) ∧
      ((Line.cut (v.sort text).toList).map Line.content).Perm
        ((Line.cut text.toList).map Line.content) := by
  refine ⟨?_, v.sort_toList text, ?_⟩
  · have h := Sorter.pieces_layout v (Source.split text.toList).lines
    refine ⟨h.perm.length_eq, ?_, ?_, ?_⟩
    · intro i hi
      apply h.outside i
      intro r hr hsort
      rw [Nat.zero_add]
      exact hi r hr hsort
    · intro r hr
      obtain ⟨hbefore, hafter⟩ := h.slices hr
      refine ⟨by simpa using (h.bounds hr).2, hbefore, fun _ => ?_⟩
      rw [hbefore, Sorter.sortLines, hafter]
      exact r.render_perm
    · intro r hr
      exact (Sorter.span_avoids (Scope.locate_fits v _) (Nat.le_refl _) r hr).2
  · rw [v.sort_toList, Sorter.cut_sortText, ← Source.split_contents]
    exact (Sorter.sortLines_perm v _).map Line.content

end GemOrder

import GemOrder.Proofs.Rereading
import GemOrder.Proofs.Unseen
import Mathlib

namespace GemOrder

variable {v : Vocabulary}

namespace Sorter

theorem Crossing.append_right {ps : List Piece} {r' : Region} (h : Crossing v ps r') (qs : List Piece) :
    Crossing v (ps ++ qs) r' := by
  obtain ⟨before, r, behind, rfl, hsort, hover, e, he, first, hf, l, hl, hc⟩ := h
  refine ⟨before, r, behind ++ qs, by simp, hsort, hover, e, he, first, hf, l, ?_, hc⟩
  obtain ⟨rest, hrest⟩ := List.head?_eq_some_iff.mp hl
  simp [hrest]

/-- The regions of sorted lines are settled, but for those that cross the end of a sorted region. -/
theorem regions_reread (hv : v.Usable) (ha : v.Apart) (ls : List Line) :
    ∀ r' ∈ regions v (sortLines v ls), r'.Settled ∨ Crossing v (pieces v ls) r' := by
  refine pieces_lift hv ha
    (P := fun ps qs => ∀ r' ∈ qs.filterMap Piece.region?, r'.Settled ∨ Crossing v ps r') ?_ ?_ ?_ ls
  · intro ps ps' qs qs' hq hq' r' hr'
    rw [List.filterMap_append] at hr'
    rcases List.mem_append.mp hr' with hr' | hr'
    · exact (hq r' hr').imp_right fun hcross => hcross.append_right ps'
    · exact (hq' r' hr').imp_right fun hcross => hcross.append_left ps
  · simp [Piece.region?]
  · exact fun next i ps hrun => hrun.reread hv

theorem Crossing.exists_region {ls : List Line} {r' : Region} (h : Crossing v (pieces v ls) r') :
    ∃ r ∈ regions v ls, r.sortable = true ∧ r'.Overruns r ∧ r.RunsOn v ls[r.stop]? := by
  obtain ⟨before, r, behind, hps, hsort, hover, hrun⟩ := h
  have hmem : r ∈ regions v ls := by
    rw [regions, hps]
    simp [Piece.region?]
  have hlay := pieces_layout v ls
  rw [hps] at hlay
  have hstart := hlay.region_start
  have hl := hlay.lines
  rw [List.flatMap_append, List.flatMap_cons, Piece.lines] at hl
  have hstop : ls[r.stop]? = (behind.flatMap Piece.lines).head? := by
    rw [← hl, Region.stop, hstart]
    simp [List.getElem?_append_right, List.head?_eq_getElem?]
  exact ⟨r, hmem, hsort, hover, hstop ▸ hrun⟩

end Sorter

namespace Vocabulary

/-- A region of a sorted text is settled, or crosses the end of a region that was sorted. -/
theorem regions_sort_settled (hv : v.Usable) (ha : v.Apart) (text : String) :
    ∀ r' ∈ Sorter.regions v (Source.split (v.sort text).toList).lines, r'.Settled ∨
      ∃ r ∈ Sorter.regions v (Source.split text.toList).lines, r.sortable = true ∧ r'.Overruns r ∧
        r.RunsOn v (Source.split text.toList).lines[r.stop]? := by
  intro r' hr'
  have hmem := List.mem_map_of_mem (f := Region.map Line.content) hr'
  rw [regions_sort hv] at hmem
  obtain ⟨q, hq, he⟩ := List.mem_map.mp hmem
  obtain ⟨hstart, hstop, hsettled⟩ := Region.alike_of_map_eq he
  rcases Sorter.regions_reread hv ha _ q hq with hset | hcross
  · exact Or.inl (hsettled.mp hset)
  · right
    obtain ⟨r, hr, hsort, hover, hrun⟩ := hcross.exists_region
    rw [Region.Overruns, hstart, hstop] at hover
    exact ⟨r, hr, hsort, hover, hrun⟩

theorem sort_sort_iff (hv : v.Usable) (ha : v.Apart) (text : String) :
    v.sort (v.sort text) = v.sort text ↔
      ∀ r ∈ Sorter.regions v (Source.split text.toList).lines, r.sortable = true →
        ∀ r' ∈ Sorter.regions v (Source.split (v.sort text).toList).lines, r'.Overruns r →
          r'.Settled := by
  rw [sort_eq_iff_settled hv]
  constructor
  · exact fun h _ _ _ r' hr' _ => h r' hr'
  · intro h r' hr'
    rcases regions_sort_settled hv ha text r' hr' with hset | ⟨r, hr, hsort, hover, -⟩
    · exact hset
    · exact h r hr hsort r' hr' hover

/-- Where no entry of a sorted region runs on, one pass is enough. -/
theorem sort_sort_of_not_runsOn (hv : v.Usable) (ha : v.Apart) {text : String}
    (h : ∀ r ∈ Sorter.regions v (Source.split text.toList).lines, r.sortable = true →
      ¬ r.RunsOn v (Source.split text.toList).lines[r.stop]?) :
    v.sort (v.sort text) = v.sort text := by
  rw [sort_eq_iff_settled hv]
  intro r' hr'
  rcases regions_sort_settled hv ha text r' hr' with hset | ⟨r, hr, hsort, -, hrun⟩
  · exact hset
  · exact absurd hrun (h r hr hsort)

theorem standard_usable : standard.Usable :=
  Config.vocabulary_usable Config.vocabulary_standard

theorem standard_apart : standard.Apart := by decide

end Vocabulary

/-- A sorted text stays as it is exactly if every region of it that crosses the end of a sorted region
is left alone or in order. There is none if no entry of a sorted region runs on into the line behind
the region. -/
theorem sort_twice_iff (text : String) :
    (Vocabulary.standard.sort (Vocabulary.standard.sort text) = Vocabulary.standard.sort text ↔
      ∀ r ∈ Sorter.regions Vocabulary.standard (Source.split text.toList).lines, r.sortable = true →
        ∀ r' ∈ Sorter.regions Vocabulary.standard
          (Source.split (Vocabulary.standard.sort text).toList).lines,
          r'.Overruns r → r'.unsortable = true ∨ r'.Ordered) ∧
      ((∀ r ∈ Sorter.regions Vocabulary.standard (Source.split text.toList).lines,
          r.sortable = true →
            ¬ r.RunsOn Vocabulary.standard (Source.split text.toList).lines[r.stop]?) →
        Vocabulary.standard.sort (Vocabulary.standard.sort text) = Vocabulary.standard.sort text) := by
  have hv := Vocabulary.standard_usable
  have ha := Vocabulary.standard_apart
  exact ⟨Vocabulary.sort_sort_iff hv ha text, Vocabulary.sort_sort_of_not_runsOn hv ha⟩

set_option maxRecDepth 20000 in
/-- The line `source` ends the entry of `b` but not that of `c`, which stands last after the first pass
and takes the line to itself, so that the second pass finds `a` behind it. -/
theorem sort_twice_overruns :
    Vocabulary.standard.sort
        (Vocabulary.standard.sort "gem 'c'\n\n    gem 'b'\n  source 'x'\ngem 'a'\n") ≠
      Vocabulary.standard.sort "gem 'c'\n\n    gem 'b'\n  source 'x'\ngem 'a'\n" := by
  have hfirst : Vocabulary.standard.sort "gem 'c'\n\n    gem 'b'\n  source 'x'\ngem 'a'\n" =
      "    gem 'b'\n\ngem 'c'\n  source 'x'\ngem 'a'\n" := by cbv
  have hsecond : Vocabulary.standard.sort "    gem 'b'\n\ngem 'c'\n  source 'x'\ngem 'a'\n" =
      "gem 'a'\n    gem 'b'\n\ngem 'c'\n  source 'x'\n" := by cbv
  rw [hfirst, hsecond]
  decide

end GemOrder

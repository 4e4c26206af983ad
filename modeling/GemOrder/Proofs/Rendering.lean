import GemOrder.Proofs.Blocks
import GemOrder.Proofs.Extents
import GemOrder.Proofs.Stability
import Mathlib

namespace GemOrder

variable {v : Vocabulary}

namespace Region

/-- The entries of a region that can be sorted are written in their stable order. -/
theorem stablySorted_emitted {r : Region} (h : r.unsortable = false) :
    StablySorted Entry.key r.entries r.emitted := by
  cases hs : r.sortable with
  | true =>
    rw [emitted, if_pos hs]
    exact stablySorted_mergeSort Entry.key r.entries
  | false =>
    -- there is at most one entry
    have ho : r.Ordered := (settled_of_not_sortable hs).resolve_left (by simp [h])
    rw [emitted, hs]
    exact ⟨ho, fun _ => rfl⟩

variable {es : List Entry}

/-- What belongs to an entry, but for its blank lines, is written in one piece. -/
theorem infix_arrange {e : Entry} (h : e ∈ es) : e.formatting ++ e.statement <:+: arrange es := by
  cases es with
  | nil => contradiction
  | cons f es =>
    rw [arrange]
    rcases List.mem_cons.mp h with rfl | h
    · rw [List.append_assoc (e.formatting ++ e.statement)]
      exact (List.prefix_append _ _).isInfix
    · have hlines : e.lines <:+: es.flatMap Entry.lines := by
        rw [List.flatMap_def]
        exact List.infix_of_mem_flatten (List.mem_map_of_mem h)
      have hpart : e.formatting ++ e.statement <:+ e.lines := by
        rw [Entry.lines, List.append_assoc]
        exact List.suffix_append _ _
      exact hpart.isInfix.trans (hlines.trans (List.suffix_append _ _).isInfix)

/-- Entries are written with a visible line at their top. -/
theorem arrange_top (hes : ∀ e ∈ es, e.Formed v) (hne : es ≠ []) :
    ∃ l rest, arrange es = l :: rest ∧ l.isBlank = false := by
  cases es with
  | nil => contradiction
  | cons e es =>
    have he := hes e (by simp)
    cases hf : e.formatting with
    | cons l formatting =>
      refine ⟨l, formatting ++ e.statement ++ e.blanks ++ es.flatMap Entry.lines, ?_, ?_⟩
      · simp [arrange, hf]
      · exact he.visible l (by simp [hf])
    | nil =>
      obtain ⟨first, tail, hs, hd, -⟩ := he.statement
      refine ⟨first, tail ++ e.blanks ++ es.flatMap Entry.lines, ?_, ?_⟩
      · simp [arrange, hf, hs]
      · exact Vocabulary.isDeclaration_not_blank hd

theorem lines_bottom (hes : ∀ e ∈ es, e.Formed v) (hne : es ≠ []) :
    ∃ front l, es.flatMap Entry.lines = front ++ [l] ∧ ∃ e ∈ es, l ∈ e.statement := by
  obtain ⟨init, e, rfl⟩ := List.eq_nil_or_concat es |>.resolve_left hne
  have hstatement := (hes e (by simp)).statement_ne
  obtain ⟨front, l, hl⟩ := List.eq_nil_or_concat e.statement |>.resolve_left hstatement
  rw [List.concat_eq_append] at hl
  refine ⟨init.flatMap Entry.lines ++ e.blanks ++ e.formatting ++ front, l, ?_, e, by simp, by simp [hl]⟩
  simp [Entry.lines, hl]

/-- Two entries or more are written with a line of a statement at their bottom: the blank lines of the
first one stand before the second. -/
theorem arrange_bottom {e f : Entry} (hes : ∀ g ∈ e :: f :: es, g.Formed v) :
    ∃ front l, arrange (e :: f :: es) = front ++ [l] ∧ ∃ g ∈ e :: f :: es, l ∈ g.statement := by
  have hrest : ∀ g ∈ f :: es, g.Formed v := fun g hg => hes g (List.mem_cons_of_mem e hg)
  obtain ⟨front, l, hl, g, hg, hlg⟩ := lines_bottom hrest (by simp)
  refine ⟨e.formatting ++ e.statement ++ e.blanks ++ front, l, ?_, g, List.mem_cons_of_mem e hg, hlg⟩
  rw [arrange, hl, ← List.append_assoc]

/-- Lines that are written for a region whose entries come in the order `e`, `f` and then `es`. -/
structure Written (r : Region) (e f : Entry) (es : List Entry) (source out : List Line) : Prop where
  lines : out = r.leading ++ e.formatting ++ e.statement ++ e.blanks ++
    f.blanks ++ f.formatting ++ f.statement ++
      es.flatMap (fun g => g.blanks ++ g.formatting ++ g.statement) ++ r.trailing
  perm : out.Perm source
  whole : ∀ g ∈ r.entries, g.formatting ++ g.statement <:+: out
  top : ∃ l rest, out = r.leading ++ l :: rest ∧ l.isBlank = false
  bottom : ∃ front l, out = front ++ l :: r.trailing ∧ ∃ g ∈ r.entries, l ∈ g.statement

theorem Formed.written {r : Region} (h : r.Formed v) (hs : r.sortable = true) {e f : Entry}
    (he : r.emitted = e :: f :: es) : r.Written e f es r.lines r.render := by
  have hmem {g : Entry} : g ∈ e :: f :: es ↔ g ∈ r.entries := by
    rw [← he]
    exact r.emitted_perm.mem_iff
  have hformed : ∀ g ∈ e :: f :: es, g.Formed v := fun g hg => h.entries g (hmem.mp hg)
  have hrender := render_of_sortable hs
  rw [he] at hrender
  refine ⟨?_, r.render_perm, ?_, ?_, ?_⟩
  · have hrest : es.flatMap Entry.lines =
        es.flatMap fun g => g.blanks ++ g.formatting ++ g.statement := rfl
    rw [hrender, ← hrest]
    simp only [arrange, List.flatMap_cons, Entry.lines, List.append_assoc]
  · intro g hg
    rw [hrender]
    exact (infix_arrange (hmem.mpr hg)).trans ⟨r.leading, r.trailing, rfl⟩
  · obtain ⟨l, rest, hl, hb⟩ := arrange_top hformed (by simp)
    exact ⟨l, rest ++ r.trailing, by rw [hrender, hl]; simp, hb⟩
  · obtain ⟨front, l, hl, g, hg, hlg⟩ := arrange_bottom hformed
    exact ⟨r.leading ++ front, l, by rw [hrender, hl]; simp, g, hmem.mp hg, hlg⟩

end Region

end GemOrder

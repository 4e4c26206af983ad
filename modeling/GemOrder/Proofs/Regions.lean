import GemOrder.Proofs.Segments

namespace GemOrder

variable {v : Vocabulary}

theorem Entry.Formed.statement_visible {e : Entry} (h : e.Formed v) :
    ∀ l ∈ e.statement, l.isBlank = false := by
  obtain ⟨first, tail, hs, hd, ht, -⟩ := h.statement
  intro l hl
  rw [hs] at hl
  rcases List.mem_cons.mp hl with rfl | hl
  · exact Vocabulary.isDeclaration_not_blank hd
  · exact (Vocabulary.continues_iff_follows.mp (ht l hl)).visible

theorem Entry.Formed.statement_ne {e : Entry} (h : e.Formed v) : e.statement ≠ [] := by
  obtain ⟨first, tail, hs, -⟩ := h.statement
  simp [hs]

namespace Region

/-- A region the way it is read. -/
structure Formed (v : Vocabulary) (r : Region) : Prop where
  leading : ∀ l ∈ r.leading, l.isBlank = true
  entries : ∀ e ∈ r.entries, e.Formed v
  first : ∀ e ∈ r.entries.head?, e.blanks = []
  trailing : ∀ l ∈ r.trailing, v.isFormatting l = true

theorem takeBlanks_lines (es : List Entry) :
    (takeBlanks es).1 ++ (takeBlanks es).2.flatMap Entry.lines = es.flatMap Entry.lines := by
  cases es with
  | nil => rfl
  | cons e es => simp [takeBlanks, Entry.lines]

theorem takeBlanks_formed {es : List Entry} (h : ∀ e ∈ es, e.Formed v) :
    (∀ l ∈ (takeBlanks es).1, l.isBlank = true) ∧ (∀ e ∈ (takeBlanks es).2, e.Formed v) ∧
      ∀ e ∈ (takeBlanks es).2.head?, e.blanks = [] := by
  cases es with
  | nil => simp [takeBlanks]
  | cons e es =>
    have he := h e (by simp)
    refine ⟨he.blanks, ?_, by simp [takeBlanks]⟩
    intro f hf
    rcases List.mem_cons.mp hf with rfl | hf
    · exact ⟨by simp, he.formatting, he.visible, he.statement⟩
    · exact h f (by simp [hf])

theorem read_formed (v : Vocabulary) (start : Nat) (next : Option Line) (ls : List Line) :
    (read v start next ls).Formed v := by
  have hs := scan_scanned v ls
  obtain ⟨hl, he, hf⟩ := takeBlanks_formed hs.formed
  exact ⟨hl, he, hf, hs.trailing_formatting⟩

/-- The lines of the region at the front of some lines come first, and behind them what reading left
over. -/
theorem read_lines (v : Vocabulary) (start : Nat) (next : Option Line) (ls : List Line) :
    ls = (read v start next ls).lines ++ (scan v ls).2.2 := by
  have hs := (scan_scanned v ls).lines
  rw [← takeBlanks_lines] at hs
  exact hs

@[simp] theorem read_start (v : Vocabulary) (start : Nat) (next : Option Line) (ls : List Line) :
    (read v start next ls).start = start := rfl

theorem arrange_perm (es : List Entry) : (arrange es).Perm (es.flatMap Entry.lines) := by
  cases es with
  | nil => exact .nil
  | cons e es =>
    have hmove : (e.formatting ++ e.statement ++ e.blanks).Perm e.lines := by
      rw [Entry.lines, List.append_assoc e.blanks]
      exact List.perm_append_comm
    exact hmove.append_right _

/-- Entries of which the first brings no blank lines are arranged in their own order. -/
theorem arrange_of_first {es : List Entry} (h : ∀ e ∈ es.head?, e.blanks = []) :
    arrange es = es.flatMap Entry.lines := by
  cases es with
  | nil => rfl
  | cons e es => simp [arrange, Entry.lines, h e (by simp)]

/-- Writing a region moves its lines and does nothing else. -/
theorem render_perm (r : Region) : r.render.Perm r.lines := by
  rw [render]
  split
  · have hp := (arrange_perm _).trans
      ((List.mergeSort_perm r.entries Entry.le).flatMap_right Entry.lines)
    exact (hp.append_left _).append_right _
  · exact .refl _

@[simp] theorem render_length (r : Region) : r.render.length = r.lines.length :=
  r.render_perm.length_eq

theorem two_entries {r : Region} (h : r.sortable = true) : 1 < r.entries.length := by
  simp only [sortable, Bool.and_eq_true, decide_eq_true_eq] at h
  exact h.2

theorem render_of_not_sortable {r : Region} (h : r.sortable = false) : r.render = r.lines := by
  simp [render, h]

/-- A region whose entries are in order already is written as it was read. -/
theorem Formed.render_of_ordered {r : Region} (h : r.Formed v)
    (ho : r.entries.mergeSort Entry.le = r.entries) : r.render = r.lines := by
  rw [render, ho, arrange_of_first h.first]
  split <;> rfl

theorem lines_getLast_visible {es : List Entry} (h : ∀ e ∈ es, e.Formed v) :
    ∀ l ∈ (es.flatMap Entry.lines).getLast?, l.isBlank = false := by
  rcases List.eq_nil_or_concat es with rfl | ⟨init, e, rfl⟩
  · simp
  · have he := h e (by simp)
    intro l hl
    rw [List.concat_eq_append, List.flatMap_append, List.flatMap_singleton, Entry.lines,
      ← List.append_assoc, List.getLast?_append_of_ne_nil _ he.statement_ne] at hl
    exact he.statement_visible l (List.mem_of_getLast? hl)

/-- The last line of a region stays where it is, or a line of some statement takes its place. -/
theorem Formed.render_getLast {r : Region} (h : r.Formed v) :
    r.render.getLast? = r.lines.getLast? ∨ ∀ l ∈ r.render.getLast?, l.isBlank = false := by
  cases hs : r.sortable with
  | false => exact Or.inl (by rw [render_of_not_sortable hs])
  | true =>
    rw [render, if_pos hs]
    by_cases ht : r.trailing = []
    · right
      rw [ht, List.append_nil]
      have hlen : 1 < (r.entries.mergeSort Entry.le).length := by
        rw [List.length_mergeSort]
        exact two_entries hs
      have hf : ∀ e ∈ r.entries.mergeSort Entry.le, e.Formed v := fun e he =>
        h.entries e (List.mem_mergeSort.mp he)
      generalize r.entries.mergeSort Entry.le = es at hlen hf
      -- there is a second entry, and the blank lines of the first one stand before it
      match es, hlen with
      | e :: f :: es, _ =>
        have hne : (f :: es).flatMap Entry.lines ≠ [] := by
          simp [Entry.lines, (hf f (by simp)).statement_ne]
        rw [arrange, ← List.append_assoc, List.getLast?_append_of_ne_nil _ hne]
        exact lines_getLast_visible fun g hg => hf g (by simp [List.mem_cons.mp hg])
    · left
      rw [Region.lines, List.getLast?_append_of_ne_nil _ ht, List.getLast?_append_of_ne_nil _ ht]

end Region

end GemOrder

import GemOrder.Proofs.Reads
import GemOrder.Proofs.Structure
import Mathlib

namespace GemOrder

variable {v : Vocabulary}

/-- Blank lines, comments with blank lines among them, and the statement of a declaration, which holds
no blank line and no line of a scope's structure. -/
structure Entry.Segmented (v : Vocabulary) (e : Entry) : Prop where
  blanks : ∀ l ∈ e.blanks, l.isBlank = true
  formatting : ∀ l ∈ e.formatting, l.isBlank = true ∨ v.isComment l = true
  opening : ∀ l ∈ e.formatting.head?, l.isBlank = false ∧ v.isComment l = true
  declared : ∃ first, e.statement.head? = some first ∧ v.isDeclaration first = true ∧
    e.name = v.declaredName? first
  visible : ∀ l ∈ e.statement, l.isBlank = false
  unstructured : ∀ l ∈ e.statement.tail, v.isHeader l = false ∧ v.isCloser l = false

theorem Vocabulary.isFormatting_iff {l : Line} :
    v.isFormatting l = true ↔ l.isBlank = true ∨ v.isComment l = true := by
  rw [isFormatting, Bool.or_eq_true]

theorem Entry.Formed.segmented {e : Entry} (h : e.Formed v) : e.Segmented v := by
  obtain ⟨first, tail, hs, hd, ht, hname⟩ := h.statement
  refine ⟨h.blanks, ?_, ?_, ⟨first, by rw [hs]; rfl, hd, hname⟩, h.statement_visible, ?_⟩
  · intro l hl
    exact Vocabulary.isFormatting_iff.mp (h.formatting l hl)
  · intro l hl
    have hvisible := h.visible l hl
    have hkind := Vocabulary.isFormatting_iff.mp (h.formatting l (List.mem_of_mem_head? hl))
    exact ⟨hvisible, hkind.resolve_left (by simp [hvisible])⟩
  · intro l hl
    rw [hs] at hl
    exact Bool.or_eq_false_iff.mp (Vocabulary.isStructural_of_continues (ht l hl))

namespace Region

/-- A region that is made of the lines of a range from `start` on, as many of them as can belong to
it. -/
structure Segments (v : Vocabulary) (ls : List Line) (start stop : Nat) (r : Region) : Prop where
  start_eq : r.start = start
  bounds : start ≤ r.stop ∧ r.stop ≤ stop
  lossless : slice ls start r.stop =
    r.leading ++ r.entries.flatMap (fun e => e.blanks ++ e.formatting ++ e.statement) ++ r.trailing
  leading : ∀ l ∈ r.leading, l.isBlank = true
  entries : ∀ e ∈ r.entries, e.Segmented v
  first : ∀ e ∈ r.entries.head?, e.blanks = []
  trailing : ∀ l ∈ r.trailing, l.isBlank = true ∨ v.isComment l = true
  maximal : r.stop = stop ∨ ∃ l, ls[r.stop]? = some l ∧
    l.isBlank = false ∧ v.isComment l = false ∧ v.isDeclaration l = false

variable {ls : List Line} {start stop : Nat}

/-- A region ends within the lines that it is read from. -/
theorem read_stop_le (v : Vocabulary) (start : Nat) (next : Option Line) (ls : List Line) :
    (read v start next ls).stop ≤ start + ls.length := by
  have hlen := congrArg List.length (read_lines v start next ls)
  rw [List.length_append] at hlen
  rw [stop, read_start]
  omega

/-- In a range of lines there is a region: the search comes to no line that does not exist. -/
theorem at?_of_le (v : Vocabulary) (h : stop ≤ ls.length) :
    at? v ls start stop = some (read v start ls[stop]? (slice ls start stop)) := by
  rw [at?_eq]
  apply if_neg
  unfold Misses
  omega

/-- The lines of a range are those of the region at their front and those that reading left over. -/
theorem slice_read (v : Vocabulary) (next : Option Line) (h : start ≤ stop) (hs : stop ≤ ls.length) :
    let r := read v start next (slice ls start stop)
    slice ls start r.stop = r.lines ∧ slice ls r.stop stop = (scan v (slice ls start stop)).2.2 := by
  intro r
  have hle : r.stop ≤ start + (slice ls start stop).length := read_stop_le v start next _
  rw [slice_length hs] at hle
  have hstop : r.stop = start + r.lines.length := rfl
  apply slice_split (by omega) (by omega) (by omega)
  · omega
  · exact read_lines v start next (slice ls start stop)

/-- Reading stops with the range or at a line that is no part of a region. -/
theorem read_maximal (v : Vocabulary) (next : Option Line) (h : start ≤ stop) (hs : stop ≤ ls.length) :
    let r := read v start next (slice ls start stop)
    r.stop = stop ∨ ∃ l, ls[r.stop]? = some l ∧
      l.isBlank = false ∧ v.isComment l = false ∧ v.isDeclaration l = false := by
  intro r
  by_cases hend : r.stop = stop
  · exact Or.inl hend
  · right
    have hle : r.stop ≤ start + (slice ls start stop).length := read_stop_le v start next _
    rw [slice_length hs] at hle
    have hlt : r.stop < ls.length := by omega
    have hhead : (slice ls r.stop stop).head? = some ls[r.stop] := by
      rw [slice, List.head?_take, if_neg (by omega), List.head?_drop, List.getElem?_eq_getElem hlt]
    have hstops := (scan_scanned v (slice ls start stop)).left_head
    rw [← (slice_read v next h hs).2] at hstops
    obtain ⟨hformatting, hdeclaration⟩ := hstops _ hhead
    rw [Vocabulary.isFormatting, Bool.or_eq_false_iff] at hformatting
    exact ⟨_, List.getElem?_eq_getElem hlt, hformatting.1, hformatting.2, hdeclaration⟩

end Region

/-- In every range of lines there is a region. It starts with the range, its parts in their order are
the lines up to its end, each part holds the kinds of lines it should, and it goes as far as it can. -/
theorem region_segments (v : Vocabulary) {ls : List Line} {start stop : Nat} (h : start ≤ stop)
    (hs : stop ≤ ls.length) :
    ∃ r, Region.at? v ls start stop = some r ∧ r.Segments v ls start stop := by
  refine ⟨_, Region.at?_of_le v hs, ?_⟩
  have hformed := Region.read_formed v start ls[stop]? (slice ls start stop)
  have hle := Region.read_stop_le v start ls[stop]? (slice ls start stop)
  rw [slice_length hs] at hle
  refine ⟨rfl, ⟨Nat.le_add_right _ _, by omega⟩, ?_, hformed.leading, ?_, hformed.first, ?_, ?_⟩
  · exact (Region.slice_read v ls[stop]? h hs).1
  · intro e he
    exact (hformed.entries e he).segmented
  · intro l hl
    exact Vocabulary.isFormatting_iff.mp (hformed.trailing l hl)
  · exact Region.read_maximal v ls[stop]? h hs

/-- Two declarations, the second with blank lines and a comment before it and a line that continues
it, between blank lines and a comment that belongs to neither. -/
def Region.commented : List Line :=
  ["\n", "gem 'b'\n", "\n", "# c\n", "\n", "gem 'a',\n", "  '1'\n", "# d\n", "source 's'\n"].map
    String.toList

set_option maxRecDepth 20000 in
/-- The region ends before the directive; the blank line in front of it is that of the region, and the
last comment stands behind its entries. -/
theorem region_segments_commented :
    ∃ r, Region.at? .standard Region.commented 0 9 = some r ∧
      r.Segments .standard Region.commented 0 9 ∧ r.stop = 8 ∧
      r.entries.map Entry.name = [some ['b'], some ['a']] ∧ r.trailing = ["# d\n".toList] := by
  obtain ⟨r, hr, hsegments⟩ := region_segments .standard (by decide : 0 ≤ 9)
    (by decide : 9 ≤ Region.commented.length)
  have hparts : (Region.at? .standard Region.commented 0 9).map
      (fun r => (r.stop, r.entries.map Entry.name, r.trailing)) =
      some (8, [some ['b'], some ['a']], ["# d\n".toList]) := by cbv
  rw [hr, Option.map_some, Option.some.injEq, Prod.mk.injEq, Prod.mk.injEq] at hparts
  exact ⟨r, hr, hsegments, hparts⟩

end GemOrder

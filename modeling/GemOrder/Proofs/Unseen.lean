import GemOrder.Proofs.Progress
import GemOrder.Proofs.Structure

namespace GemOrder

variable {v : Vocabulary} {f : Line → Line}

namespace Entry

def map (f : Line → Line) (e : Entry) : Entry where
  name := e.name
  blanks := e.blanks.map f
  formatting := e.formatting.map f
  statement := e.statement.map f

@[simp] theorem map_lines (e : Entry) : (e.map f).lines = e.lines.map f := by
  simp [map, lines]

theorem map_new (hf : v.Unseen f) (name : Option (List Char)) (formatting statement : List Line) :
    (new name formatting statement).map f = new name (formatting.map f) (statement.map f) := by
  have hb : Line.isBlank ∘ f = Line.isBlank := funext hf.isBlank
  simp only [new, map, List.takeWhile_map, List.dropWhile_map, hb]

end Entry

namespace Vocabulary

theorem Unseen.isFormatting (hf : v.Unseen f) (l : Line) : v.isFormatting (f l) = v.isFormatting l := by
  rw [Vocabulary.isFormatting, Vocabulary.isFormatting, hf.isBlank, hf.isComment]

theorem Unseen.continues (hf : v.Unseen f) (first l : Line) :
    v.continues (f first) (f l) = v.continues first l := by
  simp only [Vocabulary.continues, hf.isBlank, hf.isHeader, hf.isCloser, hf.indent, hf.isComment,
    hf.isStarter]

end Vocabulary

namespace Region

def map (f : Line → Line) (r : Region) : Region where
  start := r.start
  leading := r.leading.map f
  entries := r.entries.map (Entry.map f)
  trailing := r.trailing.map f
  dangling := r.dangling

@[simp] theorem map_lines (r : Region) : (r.map f).lines = r.lines.map f := by
  simp [map, lines, List.map_flatMap, List.flatMap_map]

@[simp] theorem map_stop (r : Region) : (r.map f).stop = r.stop := by
  rw [stop, stop, map_lines, List.length_map]
  rfl

@[simp] theorem map_unsortable (r : Region) : (r.map f).unsortable = r.unsortable := by
  simp [unsortable, unnamed, map, Entry.map, Function.comp_def]

theorem map_sortable (r : Region) : (r.map f).sortable = r.sortable := by
  rw [sortable, sortable, map_unsortable, map, List.length_map]

theorem arrange_map (es : List Entry) : arrange (es.map (Entry.map f)) = (arrange es).map f := by
  cases es with
  | nil => rfl
  | cons e es => simp [arrange, Entry.map, Entry.lines, List.map_flatMap, List.flatMap_map]

@[simp] theorem map_render (r : Region) : (r.map f).render = r.render.map f := by
  have hsort : (r.entries.mergeSort Entry.le).map (Entry.map f) =
      (r.map f).entries.mergeSort Entry.le := by
    apply List.map_mergeSort
    intro a _ b _
    rfl
  rw [render, render, map_sortable, ← hsort, arrange_map, map_lines]
  cases r.sortable <;> simp [map]

@[simp] theorem map_settled (r : Region) : (r.map f).Settled ↔ r.Settled := by
  rw [Settled, Settled, map_unsortable, Ordered, Ordered, map, List.pairwise_map]
  rfl

/-- Two regions that a change makes equal stand at the same place and are sorted alike. -/
theorem alike_of_map_eq {r r' : Region} (h : r.map f = r'.map f) :
    r.start = r'.start ∧ r.stop = r'.stop ∧ (r.Settled ↔ r'.Settled) := by
  have hstart : (r.map f).start = (r'.map f).start := congrArg Region.start h
  refine ⟨hstart, ?_, ?_⟩
  · rw [← map_stop (f := f), h, map_stop]
  · rw [← map_settled (f := f), h, map_settled]

theorem Scanned.map (hf : v.Unseen f) {ls trailing left : List Line} {es : List Entry}
    (h : Scanned v ls es trailing left) :
    Scanned v (ls.map f) (es.map (Entry.map f)) (trailing.map f) (left.map f) := by
  induction h with
  | stop formatting left hfmt hl =>
    rw [List.map_append]
    refine .stop _ _ ?_ ?_
    · simpa [hf.isFormatting] using hfmt
    · simpa [hf.isFormatting, hf.isDeclaration] using hl
  | entry formatting first tail rest hfmt hd ht hr h ih =>
    have hfmt' : ∀ l ∈ formatting.map f, v.isFormatting l = true := by
      simpa [hf.isFormatting] using hfmt
    have ht' : ∀ l ∈ tail.map f, v.continues (f first) l = true := by
      simpa [hf.continues] using ht
    have hr' : ∀ l ∈ (rest.map f).head?, v.continues (f first) l = false := by
      simpa [hf.continues] using hr
    have hs := Scanned.entry _ _ _ _ hfmt' ((hf.isDeclaration first).trans hd) ht' hr' ih
    rw [hf.declaredName?] at hs
    simpa [Entry.map_new hf] using hs

theorem takeBlanks_map (es : List Entry) :
    takeBlanks (es.map (Entry.map f)) =
      ((takeBlanks es).1.map f, (takeBlanks es).2.map (Entry.map f)) := by
  cases es with
  | nil => rfl
  | cons e es => rfl

theorem opensWithComment_map (hf : v.Unseen f) (ls : List Line) :
    opensWithComment (ls.map f) = opensWithComment ls := by
  cases ls with
  | nil => rfl
  | cons l ls => simp [opensWithComment, hf.isBlank]

theorem endsAt_map (hf : v.Unseen f) (next : Option Line) :
    endsAt v (next.map f) = endsAt v next := by
  cases next with
  | none => rfl
  | some l => simp [endsAt, hf.isCloser]

theorem read_map (hf : v.Unseen f) (start : Nat) (next : Option Line) (ls : List Line) :
    read v start (next.map f) (ls.map f) = (read v start next ls).map f := by
  have hs := ((scan_scanned v ls).map hf).scan_eq
  simp only [read, hs, takeBlanks_map, endsAt_map hf, opensWithComment_map hf, List.isEmpty_map]
  rfl

end Region

namespace Piece

def map (f : Line → Line) : Piece → Piece
  | .text ls => .text (ls.map f)
  | .region r => .region (r.map f)

@[simp] theorem map_render (p : Piece) : (p.map f).render = p.render.map f := by
  cases p with
  | text ls => rfl
  | region r => exact r.map_render

theorem map_region? (ps : List Piece) :
    (ps.map (Piece.map f)).filterMap region? = (ps.filterMap region?).map (Region.map f) := by
  rw [List.filterMap_map, List.map_filterMap]
  congr 1
  funext p
  cases p <;> rfl

end Piece

namespace Sorter

theorem opensRegion_map (hf : v.Unseen f) (ls : List Line) :
    opensRegion v (ls.map f) = opensRegion v ls := by
  have hc : v.isComment ∘ f = v.isComment := funext hf.isComment
  rw [opensRegion, opensRegion, List.dropWhile_map, hc, List.head?_map, Option.any_map]
  simp only [hf.isDeclaration]

theorem runFrom_map (hf : v.Unseen f) (next : Option Line) (i : Nat) (ls : List Line) :
    runFrom v (next.map f) i (ls.map f) = (runFrom v next i ls).map (Piece.map f) := by
  fun_induction runFrom v next i ls with
  | case1 i => rw [List.map_nil, runFrom, List.map_nil]
  | case2 i l ls h r ih =>
    have hr := Region.read_map hf i next (l :: ls)
    rw [← opensRegion_map hf] at h
    rw [List.map_cons] at h hr ⊢
    rw [runFrom, if_pos h, hr]
    simp only [Region.map_lines, Region.map_stop, List.length_map]
    rw [← List.map_drop, ih]
    rfl
  | case3 i l ls h ih =>
    rw [← opensRegion_map hf] at h
    rw [List.map_cons] at h ⊢
    rw [runFrom, if_neg h, ih]
    rfl

@[simp] theorem slice_map (ls : List Line) (start stop : Nat) :
    slice (ls.map f) start stop = (slice ls start stop).map f := by
  simp [slice]

theorem run_map (hf : v.Unseen f) (ls : List Line) (start stop : Nat) :
    run v (ls.map f) start stop = (run v ls start stop).map (Piece.map f) := by
  rw [run, run, List.getElem?_map, slice_map, runFrom_map hf]

theorem span_map (hf : v.Unseen f) {ls : List Line} {start stop : Nat} {scopes : List Scope}
    (h : Scope.Fits start stop scopes) :
    span v (ls.map f) start stop scopes = (span v ls start stop scopes).map (Piece.map f) := by
  induction h with
  | nil h => rw [span, span, run_map hf]
  | cons h inside behind ihi ihb =>
    rw [span, span, run_map hf, ihi, ihb]
    simp [Piece.map]

theorem locate_map (hf : v.Unseen f) (ls : List Line) :
    Scope.locate v (ls.map f) = Scope.locate v ls := by
  apply Scope.locate_congr
  rw [List.forall₂_map_left_iff]
  exact List.forall₂_same.mpr fun l _ => ⟨hf.isHeader l, hf.isCloser l, fun _ => hf.indent l⟩

theorem pieces_map (hf : v.Unseen f) (ls : List Line) :
    pieces v (ls.map f) = (pieces v ls).map (Piece.map f) := by
  rw [pieces, pieces, locate_map hf, List.length_map, span_map hf (Scope.locate_fits v ls)]

theorem regions_map (hf : v.Unseen f) (ls : List Line) :
    regions v (ls.map f) = (regions v ls).map (Region.map f) := by
  rw [regions, regions, pieces_map hf, Piece.map_region?]

/-- Changing lines and sorting them can be done in either order. -/
theorem sortLines_map (hf : v.Unseen f) (ls : List Line) :
    sortLines v (ls.map f) = (sortLines v ls).map f := by
  rw [sortLines, sortLines, pieces_map hf, List.flatMap_map, List.map_flatMap]
  simp only [Piece.map_render]

end Sorter

/-- The regions of a sorted text are those of the sorted lines, apart from how the lines end. -/
theorem Vocabulary.regions_sort (hv : v.Usable) (text : String) :
    (Sorter.regions v (Source.split (v.sort text).toList).lines).map (Region.map Line.content) =
      (Sorter.regions v (Sorter.sortLines v (Source.split text.toList).lines)).map
        (Region.map Line.content) := by
  have hc := unseen_content hv
  rw [← Sorter.regions_map hc, ← Sorter.regions_map hc, Source.split_contents, sort_toList,
    Sorter.cut_sortText]

end GemOrder

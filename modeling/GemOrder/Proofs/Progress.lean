import GemOrder.Proofs.Names
import GemOrder.Proofs.Relocation

namespace GemOrder

variable {v : Vocabulary}

namespace Sorter

/-- The keys of the declarations among some lines, in the order of the lines. -/
def keys (v : Vocabulary) (ls : List Line) : List (Option (List Char)) :=
  (ls.filter v.isDeclaration).map fun l => (v.declaredName? l).map Text.lower

@[simp] theorem keys_append (ls ks : List Line) : keys v (ls ++ ks) = keys v ls ++ keys v ks := by
  simp [keys]

theorem keys_eq_nil {ls : List Line} (h : ∀ l ∈ ls, v.isDeclaration l = false) :
    keys v ls = [] := by
  rw [keys, List.filter_eq_nil_iff.mpr fun l hl => by simp [h l hl], List.map_nil]

theorem keys_perm {ls ks : List Line} (h : ls.Perm ks) : (keys v ls).Perm (keys v ks) :=
  (h.filter _).map _

theorem keys_map {f : Line → Line} (hf : v.Unseen f) (ls : List Line) :
    keys v (ls.map f) = keys v ls := by
  have hd : v.isDeclaration ∘ f = v.isDeclaration := funext hf.isDeclaration
  have hn : (fun l => (v.declaredName? l).map Text.lower) ∘ f =
      fun l => (v.declaredName? l).map Text.lower := funext fun l => by simp [hf.declaredName? l]
  rw [keys, keys, List.filter_map, hd, List.map_map, hn]

theorem isDeclaration_of_formatting {l : Line} (h : v.isFormatting l = true) :
    v.isDeclaration l = false := by
  apply Bool.eq_false_iff.mpr
  intro hd
  rw [Vocabulary.isDeclaration_not_formatting hd] at h
  contradiction

theorem isDeclaration_of_blank {l : Line} (h : l.isBlank = true) : v.isDeclaration l = false :=
  isDeclaration_of_formatting (by simp [Vocabulary.isFormatting, h])

end Sorter

open Sorter

/-- The key of an entry is the first one among its lines. -/
theorem Entry.Formed.keys_lines {e : Entry} (h : e.Formed v) :
    keys v e.lines = e.key :: keys v e.statement.tail := by
  obtain ⟨first, tail, hs, hd, -, hn⟩ := h.statement
  have hb : keys v e.blanks = [] := keys_eq_nil fun l hl => isDeclaration_of_blank (h.blanks l hl)
  have hf : keys v e.formatting = [] :=
    keys_eq_nil fun l hl => isDeclaration_of_formatting (h.formatting l hl)
  rw [Entry.lines, keys_append, keys_append, hb, hf, hs, Entry.key, hn]
  simp [keys, hd]

namespace Region

/-- The entries of a region stand in the order of their keys. -/
def Ordered (r : Region) : Prop :=
  r.entries.Pairwise fun a b => Entry.keyLE a.key b.key = true

instance (r : Region) : Decidable r.Ordered :=
  inferInstanceAs (Decidable (List.Pairwise _ _))

theorem ordered_iff (r : Region) : r.Ordered ↔ r.entries.mergeSort Entry.le = r.entries := by
  constructor
  · exact fun h => List.mergeSort_of_pairwise h
  · intro h
    rw [Ordered, ← h]
    exact List.pairwise_mergeSort Entry.le_trans Entry.le_total r.entries

theorem keys_arrange {es : List Entry} (h : ∀ e ∈ es, e.Formed v) :
    keys v (arrange es) = keys v (es.flatMap Entry.lines) := by
  cases es with
  | nil => rfl
  | cons e es =>
    have hb : keys v e.blanks = [] :=
      keys_eq_nil fun l hl => isDeclaration_of_blank ((h e (by simp)).blanks l hl)
    simp [arrange, Entry.lines, hb]

/-- Sorting entries leaves them alone or makes the keys of their lines smaller, whatever declarations
their statements hold besides the first: an entry moves ahead of another only if its own key is
smaller. -/
theorem keys_mergeSort {es : List Entry} (h : ∀ e ∈ es, e.Formed v) :
    es.mergeSort Entry.le = es ∨ Entry.KeysLT (keys v ((es.mergeSort Entry.le).flatMap Entry.lines))
      (keys v (es.flatMap Entry.lines)) := by
  induction es with
  | nil => exact Or.inl (by simp)
  | cons e es ih =>
    obtain ⟨l₁, l₂, hs, hrest, hlt⟩ := List.mergeSort_cons Entry.le_trans Entry.le_total e es
    cases l₁ with
    | nil =>
      rw [List.nil_append] at hs hrest
      rw [hs, ← hrest]
      rcases ih (fun f hf => h f (by simp [hf])) with he | he
      · exact Or.inl (by rw [he])
      · right
        rw [List.flatMap_cons, List.flatMap_cons, keys_append, keys_append]
        exact he.append_left _ _
    | cons f l₁ =>
      -- the entry in front has a smaller key than the one that stood there
      right
      have hf : f.Formed v :=
        h f ((List.mergeSort_perm (e :: es) Entry.le).mem_iff.mp (by simp [hs]))
      rw [hs, List.cons_append, List.flatMap_cons, List.flatMap_cons, keys_append, keys_append,
        hf.keys_lines, (h e (by simp)).keys_lines]
      have hk : Entry.keyLT f.key e.key := by
        simpa [Entry.le, Entry.keyLT] using hlt f (by simp)
      exact .rel hk

/-- Sorting has nothing to do on a region that it leaves alone or finds in order. -/
def Settled (r : Region) : Prop :=
  r.unsortable = true ∨ r.Ordered

theorem Formed.render_of_settled {r : Region} (h : r.Formed v) (hs : r.Settled) :
    r.render = r.lines := by
  rcases hs with hu | ho
  · exact render_of_not_sortable (by simp [sortable, hu])
  · exact h.render_of_ordered (r.ordered_iff.mp ho)

theorem settled_of_not_sortable {r : Region} (h : r.sortable = false) : r.Settled := by
  rw [sortable, Bool.and_eq_false_iff, Bool.not_eq_false'] at h
  refine h.imp_right fun hlen => ?_
  -- a single entry is in order
  rw [decide_eq_false_iff_not] at hlen
  rcases he : r.entries with _ | ⟨e, _ | ⟨f, es⟩⟩
  · simp [Ordered, he]
  · simp [Ordered, he]
  · simp [he] at hlen

theorem Formed.keys_render {r : Region} (h : r.Formed v) :
    r.Settled ∨ Entry.KeysLT (keys v r.render) (keys v r.lines) := by
  cases hs : r.sortable with
  | false => exact Or.inl (settled_of_not_sortable hs)
  | true =>
    rcases keys_mergeSort h.entries with ho | hlt
    · exact Or.inl (Or.inr (r.ordered_iff.mpr ho))
    · right
      have hl : keys v r.leading = [] :=
        keys_eq_nil fun l hl => isDeclaration_of_blank (h.leading l hl)
      have hf : ∀ e ∈ r.entries.mergeSort Entry.le, e.Formed v := fun e he =>
        h.entries e (List.mem_mergeSort.mp he)
      rw [render, if_pos hs, Region.lines]
      simp only [keys_append, hl, keys_arrange hf, List.nil_append]
      exact Entry.keysLT_append hlt (keys_perm ((List.mergeSort_perm _ _).flatMap_right _)).length_eq _ _

end Region

namespace Piece

variable {ps : List Piece}

theorem render_of_settled (h : ∀ r ∈ ps.filterMap Piece.region?, r.Formed v)
    (hs : ∀ r ∈ ps.filterMap Piece.region?, r.Settled) :
    ps.flatMap Piece.render = ps.flatMap Piece.lines := by
  induction ps with
  | nil => rfl
  | cons p ps ih =>
    cases p with
    | text ls =>
      rw [List.flatMap_cons, List.flatMap_cons, ih (by simpa [region?] using h)
        (by simpa [region?] using hs)]
      rfl
    | region r =>
      simp only [List.filterMap_cons, region?, List.mem_cons, forall_eq_or_imp] at h hs
      rw [List.flatMap_cons, List.flatMap_cons, ih h.2 hs.2, Piece.render, Piece.lines,
        h.1.render_of_settled hs.1]

/-- The first region that is not settled decides: before it nothing changes, and its keys become
smaller. -/
theorem keys_render (h : ∀ r ∈ ps.filterMap Piece.region?, r.Formed v) :
    (∀ r ∈ ps.filterMap Piece.region?, r.Settled) ∨
      Entry.KeysLT (keys v (ps.flatMap Piece.render)) (keys v (ps.flatMap Piece.lines)) := by
  induction ps with
  | nil => simp
  | cons p ps ih =>
    simp only [List.flatMap_cons, keys_append]
    cases p with
    | text ls =>
      simp only [List.filterMap_cons, region?] at h ⊢
      exact (ih h).imp_right fun hlt => hlt.append_left _ _
    | region r =>
      simp only [List.filterMap_cons, region?, List.mem_cons, forall_eq_or_imp] at h ⊢
      rcases h.1.keys_render with hset | hlt
      · rcases ih h.2 with hrest | hlt
        · exact Or.inl ⟨hset, hrest⟩
        · right
          rw [Piece.render, Piece.lines, h.1.render_of_settled hset]
          exact hlt.append_left _ _
      · exact Or.inr (Entry.keysLT_append hlt (keys_perm r.render_perm).length_eq _ _)

end Piece

namespace Sorter

theorem sortLines_of_settled {ls : List Line} (h : ∀ r ∈ regions v ls, r.Settled) :
    sortLines v ls = ls := by
  have hl := pieces_layout v ls
  rw [sortLines, Piece.render_of_settled hl.formed h, hl.lines]

theorem keys_sortLines (v : Vocabulary) (ls : List Line) :
    (∀ r ∈ regions v ls, r.Settled) ∨ Entry.KeysLT (keys v (sortLines v ls)) (keys v ls) := by
  have hl := pieces_layout v ls
  have hk := Piece.keys_render hl.formed
  rwa [hl.lines] at hk

end Sorter

namespace Vocabulary

/-- The keys of the declarations of a text. -/
def keys (v : Vocabulary) (text : String) : List (Option (List Char)) :=
  Sorter.keys v (Source.split text.toList).lines

theorem keys_sort (hv : v.Usable) (text : String) :
    v.keys (v.sort text) = Sorter.keys v (Sorter.sortLines v (Source.split text.toList).lines) := by
  have hc := unseen_content hv
  rw [keys, ← keys_map hc, Source.split_contents, sort_toList, Sorter.cut_sortText, keys_map hc]

theorem sort_of_settled {text : String}
    (h : ∀ r ∈ Sorter.regions v (Source.split text.toList).lines, r.Settled) :
    v.sort text = text := by
  apply String.toList_inj.mp
  rw [sort_toList, Sorter.sortText, Sorter.sortLines_of_settled h, Source.join_split]

/-- A text is settled, or its keys become smaller. -/
theorem keys_sort_lt (hv : v.Usable) (text : String) :
    (∀ r ∈ Sorter.regions v (Source.split text.toList).lines, r.Settled) ∨
      Entry.KeysLT (v.keys (v.sort text)) (v.keys text) := by
  rw [keys_sort hv, keys]
  exact Sorter.keys_sortLines v _

theorem sort_eq_iff_settled (hv : v.Usable) (text : String) :
    v.sort text = text ↔ ∀ r ∈ Sorter.regions v (Source.split text.toList).lines, r.Settled := by
  constructor
  · intro he
    rcases keys_sort_lt hv text with hs | hlt
    · exact hs
    · rw [he] at hlt
      exact absurd hlt (Entry.keysLT_irrefl _)
  · exact fun hs => sort_of_settled hs

theorem keys_sort_perm (hv : v.Usable) (text : String) :
    (v.keys (v.sort text)).Perm (v.keys text) := by
  rw [keys_sort hv, keys]
  exact Sorter.keys_perm (Sorter.sortLines_perm v _)

end Vocabulary

end GemOrder

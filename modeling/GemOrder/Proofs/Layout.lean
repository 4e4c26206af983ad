import GemOrder.Proofs.Nesting
import GemOrder.Proofs.Regions

namespace GemOrder

variable {v : Vocabulary}

theorem slice_append {ls : List Line} {a b c : Nat} (hab : a ≤ b) (hbc : b ≤ c) :
    slice ls a b ++ slice ls b c = slice ls a c := by
  have hc : c - a = (b - a) + (c - b) := by omega
  have hb : b = a + (b - a) := by omega
  rw [slice, slice, slice, hc, List.take_add, List.drop_drop, ← hb]

theorem slice_length {ls : List Line} {a b : Nat} (h : b ≤ ls.length) :
    (slice ls a b).length = b - a := by
  rw [slice, List.length_take, List.length_drop]
  omega

@[simp] theorem slice_all (ls : List Line) : slice ls 0 ls.length = ls := by
  simp [slice]

/-- The lines in the middle of a text, by the lengths of what stands before them. -/
@[simp] theorem slice_middle (before ls behind : List Line) :
    slice (before ++ ls ++ behind) before.length (before.length + ls.length) = ls := by
  simp [slice]

theorem slice_split {out xs ys : List Line} {a b c : Nat} (hab : a ≤ b) (hbc : b ≤ c)
    (hb : b ≤ out.length) (hx : xs.length = b - a) (h : slice out a c = xs ++ ys) :
    slice out a b = xs ∧ slice out b c = ys := by
  rw [← slice_append hab hbc] at h
  exact List.append_inj h (by rw [slice_length hb, hx])

@[simp] theorem slice_head (ls : List Line) (i : Nat) : (slice ls i (i + 1)).head? = ls[i]? := by
  rw [slice, Nat.add_sub_cancel_left, List.head?_take, if_neg Nat.one_ne_zero, List.head?_drop]

namespace Piece

/-- Each region of some pieces starts where the pieces before it end, the first of them at line
`i`. -/
def Placed (i : Nat) : List Piece → Prop
  | [] => True
  | p :: ps => (∀ r ∈ p.region?, r.start = i) ∧ Placed (i + p.lines.length) ps

@[simp] theorem placed_append {ps qs : List Piece} {i : Nat} :
    Placed i (ps ++ qs) ↔ Placed i ps ∧ Placed (i + (ps.flatMap Piece.lines).length) qs := by
  induction ps generalizing i with
  | nil => simp [Placed]
  | cons p ps ih =>
    rw [List.cons_append, Placed, Placed, ih, List.flatMap_cons, List.length_append, Nat.add_assoc,
      and_assoc]

/-- Pieces that cover some lines, the first of which has number `i`. -/
structure Layout (v : Vocabulary) (i : Nat) (ls : List Line) (ps : List Piece) : Prop where
  lines : ps.flatMap Piece.lines = ls
  placed : Placed i ps
  formed : ∀ r ∈ ps.filterMap Piece.region?, r.Formed v

theorem Layout.nil (i : Nat) : Layout v i [] [] := ⟨rfl, trivial, by simp⟩

theorem Layout.text (i : Nat) (ls : List Line) : Layout v i ls [.text ls] := by
  refine ⟨by simp [Piece.lines], ⟨?_, trivial⟩, by simp [region?]⟩
  simp [region?]

theorem Layout.region {r : Region} (h : r.Formed v) : Layout v r.start r.lines [.region r] := by
  refine ⟨by simp [Piece.lines], ⟨?_, trivial⟩, by simpa [region?] using h⟩
  simp [region?]

theorem Layout.append {i : Nat} {ls ks : List Line} {ps qs : List Piece} (h : Layout v i ls ps)
    (h' : Layout v (i + ls.length) ks qs) : Layout v i (ls ++ ks) (ps ++ qs) where
  lines := by rw [List.flatMap_append, h.lines, h'.lines]
  placed := placed_append.mpr ⟨h.placed, by rw [h.lines]; exact h'.placed⟩
  formed := by
    intro r hr
    rw [List.filterMap_append] at hr
    rcases List.mem_append.mp hr with hr | hr
    · exact h.formed r hr
    · exact h'.formed r hr

/-- Pieces of neighbouring ranges of lines follow each other. -/
theorem Layout.chain {ls : List Line} {a b c : Nat} {ps qs : List Piece} (hb : b ≤ ls.length)
    (hab : a ≤ b) (hbc : b ≤ c) (h : Layout v a (slice ls a b) ps)
    (h' : Layout v b (slice ls b c) qs) : Layout v a (slice ls a c) (ps ++ qs) := by
  rw [← slice_append hab hbc]
  apply h.append
  rw [slice_length hb, Nat.add_sub_cancel' hab]
  exact h'

end Piece

namespace Sorter

open Piece

/-- A region opens with comments and a declaration behind them. -/
theorem opensRegion_iff {ls : List Line} :
    opensRegion v ls = true ↔ ∃ comments first rest, ls = comments ++ first :: rest ∧
      (∀ l ∈ comments, v.isComment l = true) ∧ v.isDeclaration first = true := by
  constructor
  · intro h
    rw [opensRegion, Option.any_eq_true] at h
    obtain ⟨first, hf, hd⟩ := h
    obtain ⟨rest, hr⟩ := List.head?_eq_some_iff.mp hf
    refine ⟨ls.takeWhile v.isComment, first, rest, ?_, fun l hl => List.mem_takeWhile_imp hl, hd⟩
    rw [← hr, List.takeWhile_append_dropWhile]
  · rintro ⟨comments, first, rest, rfl, hc, hd⟩
    have hn : v.isComment first = false := by
      simp only [Vocabulary.isDeclaration, Bool.and_eq_true, Bool.not_eq_true'] at hd
      exact hd.1
    rw [opensRegion, (Text.span_append hc (by simpa using hn)).2]
    simpa using hd

theorem read_lines_ne {ls : List Line} (h : opensRegion v ls = true) (start : Nat)
    (next : Option Line) : (Region.read v start next ls).lines ≠ [] := by
  obtain ⟨comments, first, rest, rfl, hc, hd⟩ := opensRegion_iff.mp h
  intro he
  have hl := Region.read_lines v start next (comments ++ first :: rest)
  rw [he, List.nil_append] at hl
  have hstop := (Region.scan_scanned v (comments ++ first :: rest)).left_head
  rw [← hl] at hstop
  cases comments with
  | nil =>
    have := (hstop first (by simp)).2
    simp [hd] at this
  | cons c comments =>
    have := (hstop c (by simp)).1
    simp [Vocabulary.isFormatting, hc c (by simp)] at this

/-- What is left of a run behind the region at its front. -/
theorem drop_read {l : Line} {ls : List Line} (h : opensRegion v (l :: ls) = true) (start : Nat)
    (next : Option Line) :
    ls.drop ((Region.read v start next (l :: ls)).lines.length - 1) =
      (Region.scan v (l :: ls)).2.2 := by
  have hl := Region.read_lines v start next (l :: ls)
  have hne := read_lines_ne h start next
  generalize (Region.read v start next (l :: ls)).lines = rs at hl hne
  generalize (Region.scan v (l :: ls)).2.2 = left at hl
  cases rs with
  | nil => contradiction
  | cons k rs =>
    rw [List.cons_append, List.cons.injEq] at hl
    simp [hl.2]

theorem runFrom_text {l : Line} {ls : List Line} (h : opensRegion v (l :: ls) = false)
    (next : Option Line) (i : Nat) :
    runFrom v next i (l :: ls) = .text [l] :: runFrom v next (i + 1) ls := by
  rw [runFrom, if_neg (by simp [h])]

theorem runFrom_region {ls : List Line} (h : opensRegion v ls = true) (next : Option Line) (i : Nat) :
    runFrom v next i ls = .region (Region.read v i next ls) ::
      runFrom v next (Region.read v i next ls).stop (Region.scan v ls).2.2 := by
  cases ls with
  | nil => simp [opensRegion] at h
  | cons l ls =>
    rw [runFrom, if_pos h]
    dsimp only
    rw [drop_read h]

theorem runFrom_layout (v : Vocabulary) (next : Option Line) (i : Nat) (ls : List Line) :
    Layout v i ls (runFrom v next i ls) := by
  fun_induction runFrom v next i ls with
  | case1 i => exact .nil i
  | case2 i l ls h r ih =>
    rw [drop_read h] at ih ⊢
    have hr : Layout v i r.lines [.region r] := .region (Region.read_formed v i next (l :: ls))
    have happ := hr.append ih
    rw [← Region.read_lines] at happ
    exact happ
  | case3 i l ls h ih => exact (Layout.text i [l]).append ih

theorem run_layout (v : Vocabulary) {ls : List Line} {start stop : Nat} :
    Layout v start (slice ls start stop) (run v ls start stop) :=
  runFrom_layout v _ _ _

theorem run_length {ls : List Line} {start stop : Nat} (hs : stop ≤ ls.length) :
    ((run v ls start stop).flatMap Piece.lines).length = stop - start := by
  rw [(run_layout v).lines, slice_length hs]

theorem span_layout (v : Vocabulary) {ls : List Line} {start stop : Nat} {scopes : List Scope}
    (h : Scope.Fits start stop scopes) (hs : stop ≤ ls.length) :
    Layout v start (slice ls start stop) (span v ls start stop scopes) := by
  induction h with
  | nil h =>
    rw [span]
    exact run_layout v
  | @cons lo hi header closer children scopes h inside behind ihi ihb =>
    have hin := inside.le
    have hbe := behind.le
    have hbody := (Layout.text header (slice ls header (header + 1))).chain (by omega) (by omega)
      hin (ihi (by omega))
    have hrest := (Layout.text closer (slice ls closer (closer + 1))).chain (by omega) (by omega)
      hbe (ihb hs)
    have hfront := (run_layout v).chain (by omega) h (by omega) hbody
    rw [span]
    exact hfront.chain (by omega) (by omega) (by omega) hrest

theorem span_length {ls : List Line} {start stop : Nat} {scopes : List Scope}
    (h : Scope.Fits start stop scopes) (hs : stop ≤ ls.length) :
    ((span v ls start stop scopes).flatMap Piece.lines).length = stop - start := by
  rw [(span_layout v h hs).lines, slice_length hs]

/-- The pieces of a manifest cover its lines. -/
theorem pieces_layout (v : Vocabulary) (ls : List Line) : Layout v 0 ls (pieces v ls) := by
  have h := span_layout v (Scope.locate_fits v ls) (Nat.le_refl _)
  simpa [pieces] using h

end Sorter

end GemOrder

import GemOrder.Proofs.Relocation
import Mathlib.Data.List.Forall2

namespace GemOrder

variable {v : Vocabulary}

namespace Scope

/-- Lines between which the search for scopes sees no difference. -/
structure Alike (v : Vocabulary) (l k : Line) : Prop where
  isHeader : v.isHeader l = v.isHeader k
  isCloser : v.isCloser l = v.isCloser k
  indent : v.isHeader l = true ∨ v.isCloser l = true → l.indent = k.indent

theorem Alike.refl (v : Vocabulary) (l : Line) : Alike v l l :=
  ⟨rfl, rfl, fun _ => rfl⟩

theorem Alike.opens {l k : Line} (h : Alike v l k) (depth : Nat) :
    (v.isHeader l && decide (depth < l.indent)) = (v.isHeader k && decide (depth < k.indent)) := by
  rw [← h.isHeader]
  cases hl : v.isHeader l with
  | false => rfl
  | true => rw [h.indent (Or.inl hl)]

theorem Alike.closes {l k : Line} (h : Alike v l k) (depth : Nat) :
    (v.isCloser l && l.indent == depth) = (v.isCloser k && k.indent == depth) := by
  rw [← h.isCloser]
  cases hl : v.isCloser l with
  | false => rfl
  | true => rw [h.indent (Or.inr hl)]

theorem close?_congr {depth i : Nat} {ls ks : List Line} (h : List.Forall₂ (Alike v) ls ks) :
    close? v depth i ls = close? v depth i ks := by
  fun_induction close? v depth i ls generalizing ks with
  | case1 =>
    cases h
    rw [close?]
  | case2 depth i l ls hh hc ih =>
    obtain _ | ⟨hl, h⟩ := h
    have hi := hl.indent (Or.inl (Bool.and_eq_true_iff.mp hh).1)
    rw [close?, ← hl.opens, if_pos hh, ← hi, ← ih h, hc]
  | case3 depth i l ls hh c inner hc ih1 ih2 =>
    obtain _ | ⟨hl, h⟩ := h
    have hi := hl.indent (Or.inl (Bool.and_eq_true_iff.mp hh).1)
    rw [close?, ← hl.opens, if_pos hh, ← hi, ← ih1 h, hc]
    simp only
    rw [ih2 (List.forall₂_drop _ h)]
  | case4 depth i l ls hh hc =>
    obtain _ | ⟨hl, h⟩ := h
    rw [close?, ← hl.opens, ← hl.closes, if_neg hh, if_pos hc]
  | case5 depth i l ls hh hc ih =>
    obtain _ | ⟨hl, h⟩ := h
    rw [close?, ← hl.opens, ← hl.closes, if_neg hh, if_neg hc, ih h]

theorem search_congr {i : Nat} {ls ks : List Line} (h : List.Forall₂ (Alike v) ls ks) :
    search v i ls = search v i ks := by
  fun_induction search v i ls generalizing ks with
  | case1 =>
    cases h
    rw [search]
  | case2 i l ls hh c inner hc ih =>
    obtain _ | ⟨hl, h⟩ := h
    rw [search, ← hl.isHeader, if_pos hh, ← hl.indent (Or.inl hh), ← close?_congr h, hc]
    simp only
    rw [ih (List.forall₂_drop _ h)]
  | case3 i l ls hh hc ih =>
    obtain _ | ⟨hl, h⟩ := h
    rw [search, ← hl.isHeader, if_pos hh, ← hl.indent (Or.inl hh), ← close?_congr h, hc]
    simp only
    rw [ih h]
  | case4 i l ls hh ih =>
    obtain _ | ⟨hl, h⟩ := h
    rw [search, ← hl.isHeader, if_neg hh, ih h]

theorem locate_congr {ls ks : List Line} (h : List.Forall₂ (Alike v) ls ks) :
    locate v ls = locate v ks := by
  rw [locate, locate, search_congr h]

end Scope

namespace Vocabulary

open Text

/-- No word of a vocabulary opens another. -/
def Apart (v : Vocabulary) : Prop :=
  [v.declaration, v.scope, v.closer, v.comment].Pairwise fun w u => ¬ w <+: u ∧ ¬ u <+: w

instance (v : Vocabulary) : Decidable v.Apart :=
  inferInstanceAs (Decidable (List.Pairwise _ _))

theorem prefix_of_opensWith {w : List Char} {l : Line} (h : opensWith w l = true) :
    w <+: trimStart l := by
  unfold opensWith at h
  split at h
  · rename_i he
    exact ⟨_, (after?_eq_some_iff.mp he).symm⟩
  · contradiction

theorem prefix_of_startsWithWord {w : List Char} {l : Line} (h : startsWithWord w l = true) :
    w <+: trimStart l := by
  unfold startsWithWord at h
  split at h
  · rename_i he
    exact ⟨_, (after?_eq_some_iff.mp he).symm⟩
  · rename_i he
    exact ⟨_, (after?_eq_some_iff.mp he).symm⟩
  · contradiction

theorem not_prefix_both {w u cs : List Char} (h : ¬ w <+: u ∧ ¬ u <+: w) (hw : w <+: cs) :
    ¬ u <+: cs := by
  intro hu
  rcases List.prefix_or_prefix_of_prefix hw hu with hp | hp
  · exact h.1 hp
  · exact h.2 hp

/-- A line that opens or closes a scope. -/
def isStructural (v : Vocabulary) (l : Line) : Bool :=
  v.isHeader l || v.isCloser l

theorem isStructural_of_continues {first l : Line} (h : v.continues first l = true) :
    v.isStructural l = false := by
  have hfollows := continues_iff_follows.mp h
  rw [isStructural, hfollows.not_header, hfollows.not_closer, Bool.or_self]

theorem isStructural_of_blank (hv : v.Usable) {l : Line} (h : l.isBlank = true) :
    v.isStructural l = false := by
  apply Bool.eq_false_iff.mpr
  intro hs
  simp only [isStructural, isHeader, isCloser, Bool.or_eq_true, Bool.and_eq_true] at hs
  rcases hs with hs | hs
  · rw [opensWith_not_blank hs.2] at h
    contradiction
  · have hp := prefix_of_startsWithWord hs
    rw [trimStart_of_isBlank h, List.prefix_nil] at hp
    exact hv.closer.nonempty hp

theorem isStructural_of_comment (ha : v.Apart) {l : Line} (h : v.isComment l = true) :
    v.isStructural l = false := by
  simp only [Apart, List.pairwise_cons, List.mem_cons] at ha
  have hc : v.isCloser l = false := by
    apply Bool.eq_false_iff.mpr
    intro hc
    exact not_prefix_both (ha.2.2.1 _ (by simp)) (prefix_of_startsWithWord hc)
      (List.isPrefixOf_iff_prefix.mp h)
  simp [isStructural, isHeader, h, hc]

theorem isStructural_of_declaration (ha : v.Apart) {l : Line} (h : v.isDeclaration l = true) :
    v.isStructural l = false := by
  simp only [Apart, List.pairwise_cons, List.mem_cons] at ha
  simp only [isDeclaration, Bool.and_eq_true] at h
  have hd := prefix_of_opensWith h.2
  apply Bool.eq_false_iff.mpr
  intro hs
  simp only [isStructural, isHeader, isCloser, Bool.or_eq_true, Bool.and_eq_true] at hs
  rcases hs with hs | hs
  · exact not_prefix_both (ha.1 _ (by simp)) hd (prefix_of_opensWith hs.2)
  · exact not_prefix_both (ha.1 _ (by simp)) hd (prefix_of_startsWithWord hs)

theorem isStructural_of_formatting (hv : v.Usable) (ha : v.Apart) {l : Line}
    (h : v.isFormatting l = true) : v.isStructural l = false := by
  rw [isFormatting, Bool.or_eq_true] at h
  rcases h with h | h
  · exact isStructural_of_blank hv h
  · exact isStructural_of_comment ha h

end Vocabulary

open Vocabulary

theorem Entry.Formed.not_structural (hv : v.Usable) (ha : v.Apart) {e : Entry} (h : e.Formed v) :
    ∀ l ∈ e.lines, v.isStructural l = false := by
  obtain ⟨first, tail, hs, hd, ht, -⟩ := h.statement
  intro l hl
  simp only [Entry.lines, hs, List.mem_append, List.mem_cons] at hl
  rcases hl with (hl | hl) | rfl | hl
  · exact isStructural_of_blank hv (h.blanks l hl)
  · exact isStructural_of_formatting hv ha (h.formatting l hl)
  · exact isStructural_of_declaration ha hd
  · exact isStructural_of_continues (ht l hl)

theorem Region.Formed.not_structural (hv : v.Usable) (ha : v.Apart) {r : Region} (h : r.Formed v) :
    ∀ l ∈ r.lines, v.isStructural l = false := by
  intro l hl
  simp only [Region.lines, List.mem_append, List.mem_flatMap] at hl
  rcases hl with (hl | ⟨e, he, hl⟩) | hl
  · exact isStructural_of_blank hv (h.leading l hl)
  · exact (h.entries e he).not_structural hv ha l hl
  · exact isStructural_of_formatting hv ha (h.trailing l hl)

theorem Scope.alike_of_not_structural {l k : Line} (hl : v.isStructural l = false)
    (hk : v.isStructural k = false) : Alike v l k := by
  simp only [isStructural, Bool.or_eq_false_iff] at hl hk
  exact ⟨by rw [hl.1, hk.1], by rw [hl.2, hk.2], by simp [hl.1, hl.2]⟩

/-- Only lines that neither open nor close a scope change their places. -/
theorem Piece.render_alike (hv : v.Usable) (ha : v.Apart) {ps : List Piece}
    (h : ∀ r ∈ ps.filterMap Piece.region?, r.Formed v) :
    List.Forall₂ (Scope.Alike v) (ps.flatMap Piece.render) (ps.flatMap Piece.lines) := by
  induction ps with
  | nil => exact .nil
  | cons p ps ih =>
    rw [List.flatMap_cons, List.flatMap_cons]
    cases p with
    | text ls =>
      apply List.rel_append
      · exact List.forall₂_same.mpr fun l _ => .refl v l
      · exact ih (by simpa [region?] using h)
    | region r =>
      simp only [List.filterMap_cons, region?, List.mem_cons, forall_eq_or_imp] at h
      have hr := h.1.not_structural hv ha
      apply List.rel_append
      · refine List.forall₂_iff_zip.mpr ⟨r.render_length, fun {l k} hm => ?_⟩
        obtain ⟨hl, hk⟩ := List.of_mem_zip hm
        exact Scope.alike_of_not_structural (hr l (r.render_perm.mem_iff.mp hl)) (hr k hk)
      · exact ih h.2

/-- Sorted lines hold the same scopes at the same places. -/
theorem Sorter.locate_sortLines (hv : v.Usable) (ha : v.Apart) (ls : List Line) :
    Scope.locate v (sortLines v ls) = Scope.locate v ls := by
  have h := pieces_layout v ls
  have halike := Piece.render_alike hv ha h.formed
  rw [h.lines] at halike
  exact Scope.locate_congr halike

end GemOrder

import GemOrder.Proofs.Ownership
import GemOrder.Proofs.Windows
import Mathlib

namespace GemOrder

variable {v : Vocabulary} {d : Nat}

/-- A declaration at indent `d` that has a name, with the comments before it, none of them indented
deeper, and the lines that continue it. -/
structure Bundle (v : Vocabulary) (d : Nat) where
  comments : List Line
  first : Line
  tail : List Line
  isComment : ∀ l ∈ comments, v.isComment l = true ∧ l.indent ≤ d
  isDeclaration : v.isDeclaration first = true
  indent : first.indent = d
  named : (v.declaredName? first).isSome = true
  continued : ∀ l ∈ tail, l.isBlank = false ∧ v.isHeader l = false ∧ v.isCloser l = false ∧
    (d < l.indent ∨ (v.isComment l = false ∧ v.isStarter l = false))
  terminated : ∀ l ∈ comments ++ first :: tail, l.Terminated

theorem Vocabulary.isComment_not_blank (hv : v.Usable) {l : Line} (h : v.isComment l = true) :
    l.isBlank = false := by
  apply Bool.eq_false_iff.mpr
  intro hb
  rw [isComment, trimStart_of_isBlank hb, List.isPrefixOf_iff_prefix, List.prefix_nil] at h
  exact hv.comment_ne h

/-- Lines without a header hold no scope. -/
theorem Scope.locate_eq_nil {ls : List Line} (h : ∀ l ∈ ls, v.isHeader l = false) :
    locate v ls = [] := by
  have hsearch (i : Nat) : search v i ls = [] := by
    induction ls generalizing i with
    | nil => rw [search]
    | cons l ls ih =>
      rw [search, h l (by simp)]
      exact ih (fun k hk => h k (by simp [hk])) (i + 1)
  rw [locate, hsearch, List.filterMap_nil]

namespace Bundle

def lines (b : Bundle v d) : List Line :=
  b.comments ++ b.first :: b.tail

/-- Bundles are ordered by their names without regard to case. -/
def key (b : Bundle v d) : Option (List Char) :=
  (v.declaredName? b.first).map Text.lower

/-- The text of some bundles, one behind the other. -/
def text (bs : List (Bundle v d)) : String :=
  String.ofList (bs.flatMap lines).flatten

/-- The entry that a bundle is read as. -/
def entry (b : Bundle v d) : Entry :=
  ⟨v.declaredName? b.first, [], b.comments, b.first :: b.tail⟩

theorem entry_key (b : Bundle v d) : b.entry.key = b.key := rfl

@[simp] theorem entries_lines (bs : List (Bundle v d)) : (bs.map entry).flatMap Entry.lines = bs.flatMap lines := by
  rw [List.flatMap_map]
  rfl

theorem continues_first (b : Bundle v d) : ∀ l ∈ b.tail, v.continues b.first l = true := by
  intro l hl
  obtain ⟨hblank, hheader, hcloser, hkind⟩ := b.continued l hl
  rw [← b.indent] at hkind
  exact Vocabulary.continues_iff_follows.mpr ⟨hblank, hheader, hcloser, hkind⟩

theorem entry_flush (hv : v.Usable) (b : Bundle v d) : b.entry.Flush v d where
  formed := by
    refine ⟨by simp [entry], ?_, ?_, b.first, b.tail, rfl, b.isDeclaration, b.continues_first, rfl⟩
    · intro l hl
      simp [Vocabulary.isFormatting, (b.isComment l hl).1]
    · intro l hl
      exact Vocabulary.isComment_not_blank hv (b.isComment l (List.mem_of_mem_head? hl)).1
  indent := by rw [Entry.indent, entry, List.head?_cons, Option.map_some, b.indent]
  shallow := fun l hl _ => (b.isComment l hl).2

theorem not_header (ha : v.Apart) (b : Bundle v d) : ∀ l ∈ b.lines, v.isHeader l = false := by
  intro l hl
  rcases List.mem_append.mp hl with hl | hl
  · simp [Vocabulary.isHeader, (b.isComment l hl).1]
  · rcases List.mem_cons.mp hl with rfl | hl
    · exact (Bool.or_eq_false_iff.mp (Vocabulary.isStructural_of_declaration ha b.isDeclaration)).1
    · exact (b.continued l hl).2.1

/-- Bundles open a region with the first of their lines. -/
theorem opensRegion (b : Bundle v d) (rest : List Line) : Sorter.opensRegion v (b.lines ++ rest) = true := by
  apply Sorter.opensRegion_iff.mpr
  refine ⟨b.comments, b.first, b.tail ++ rest, ?_, fun l hl => (b.isComment l hl).1, b.isDeclaration⟩
  simp [lines]

end Bundle

namespace Region

/-- Entries that bring no blank lines are written one behind the other. -/
theorem render_of_no_blanks {r : Region} (h : ∀ e ∈ r.entries, e.blanks = []) :
    r.render = r.leading ++ r.emitted.flatMap Entry.lines ++ r.trailing := by
  cases hs : r.sortable with
  | true =>
    rw [render_of_sortable hs, arrange_of_first]
    intro e he
    exact h e (r.emitted_perm.mem_iff.mp (List.mem_of_mem_head? he))
  | false =>
    rw [render_of_not_sortable hs, emitted, hs]
    rfl

theorem takeBlanks_of_first {es : List Entry} (h : ∀ e ∈ es.head?, e.blanks = []) :
    takeBlanks es = ([], es) := by
  cases es with
  | nil => rfl
  | cons e es =>
    have he := h e rfl
    rw [takeBlanks, he, ← he]

end Region

namespace Sorter

/-- Lines that hold no scope are taken apart from the first to the last. -/
theorem sortLines_of_no_header {ls : List Line} (h : ∀ l ∈ ls, v.isHeader l = false) :
    sortLines v ls = (runFrom v none 0 ls).flatMap Piece.render := by
  rw [sortLines, pieces, Scope.locate_eq_nil h, span, run, slice_all,
    List.getElem?_eq_none (Nat.le_refl _)]

/-- Bundles are read as one region, which holds an entry for each of them and nothing else. -/
theorem runFrom_bundles (hv : v.Usable) {bs : List (Bundle v d)} (hne : bs ≠ []) :
    runFrom v none 0 (bs.flatMap Bundle.lines) = [.region ⟨0, [], bs.map Bundle.entry, [], false⟩] := by
  have hflush : ∀ e ∈ bs.map Bundle.entry, e.Flush v d :=
    List.forall_mem_map.mpr fun b _ => b.entry_flush hv
  have hscan : Region.Scanned v ((bs.map Bundle.entry).flatMap Entry.lines ++ ([] ++ []))
      (bs.map Bundle.entry) [] [] :=
    Region.scanned_flush hv hflush (by simp) (by simp) (by simp)
  rw [Bundle.entries_lines, List.append_nil, List.append_nil] at hscan
  have hfirst : ∀ e ∈ (bs.map Bundle.entry).head?, e.blanks = [] := by
    intro e he
    obtain ⟨b, -, rfl⟩ := List.mem_map.mp (List.mem_of_mem_head? he)
    rfl
  have hread : Region.read v 0 none (bs.flatMap Bundle.lines) =
      ⟨0, [], bs.map Bundle.entry, [], false⟩ := by
    simp [Region.read, hscan.scan_eq, Region.takeBlanks_of_first hfirst, opensWithComment]
  have hopens : opensRegion v (bs.flatMap Bundle.lines) = true := by
    obtain ⟨b, bs, rfl⟩ := List.exists_cons_of_ne_nil hne
    rw [List.flatMap_cons]
    exact b.opensRegion _
  rw [runFrom_region hopens, hread, hscan.scan_eq, runFrom]

theorem sortLines_bundles (hv : v.Usable) (ha : v.Apart) {bs sorted : List (Bundle v d)}
    (h : StablySorted Bundle.key bs sorted) :
    sortLines v (bs.flatMap Bundle.lines) = sorted.flatMap Bundle.lines := by
  by_cases hne : bs = []
  · subst hne
    rw [h.perm.eq_nil]
    exact (sortLines_perm v []).eq_nil
  · have hheader : ∀ l ∈ bs.flatMap Bundle.lines, v.isHeader l = false := by
      intro l hl
      obtain ⟨b, -, hlb⟩ := List.mem_flatMap.mp hl
      exact b.not_header ha l hlb
    rw [sortLines_of_no_header hheader, runFrom_bundles hv hne, List.flatMap_singleton, Piece.render,
      Region.render_of_no_blanks (by simp [Bundle.entry])]
    have hnamed : (⟨0, [], bs.map Bundle.entry, [], false⟩ : Region).unsortable = false := by
      simp only [Region.unsortable, Region.unnamed, Bool.or_false, List.any_eq_false, List.forall_mem_map]
      intro b _
      simpa [Bundle.entry] using Option.isSome_iff_ne_none.mp b.named
    have hsame := (Region.stablySorted_emitted hnamed).unique (h.map Bundle.entry_key)
    rw [hsame, Bundle.entries_lines]
    simp

end Sorter

theorem Bundle.sort_text (hv : v.Usable) (ha : v.Apart) {bs sorted : List (Bundle v d)}
    (h : StablySorted Bundle.key bs sorted) : v.sort (text bs) = text sorted := by
  have hterminated : ∀ l ∈ bs.flatMap lines, l.Terminated := by
    intro l hl
    obtain ⟨b, -, hlb⟩ := List.mem_flatMap.mp hl
    exact b.terminated l hlb
  apply String.toList_inj.mp
  rw [v.sort_toList, text, text, String.toList_ofList, String.toList_ofList,
    Sorter.sortText_flatten hterminated, Sorter.sortLines_bundles hv ha h]

/-- Sorting a text of bundles puts them in their stable order, of which there is exactly one. If no two
of them have the same name, the sorted text is the same from whatever order they come. -/
theorem sort_bundles {c : Config} {v : Vocabulary} (hv : c.vocabulary = .ok v) (ha : v.Apart) {d : Nat}
    (bs : List (Bundle v d)) :
    (∃ sorted, (∀ bs', StablySorted Bundle.key bs bs' ↔ bs' = sorted) ∧
        v.sort (Bundle.text bs) = Bundle.text sorted) ∧
      ∀ bs', bs'.Perm bs → (bs.map Bundle.key).Nodup →
        v.sort (Bundle.text bs') = v.sort (Bundle.text bs) := by
  have hu := Config.vocabulary_usable hv
  have hstable := stablySorted_mergeSort Bundle.key bs
  have hsort := Bundle.sort_text hu ha hstable
  refine ⟨⟨_, fun bs' => ⟨fun h => h.unique hstable, fun h => h ▸ hstable⟩, hsort⟩, ?_⟩
  intro bs' hperm hnodup
  rw [hsort]
  exact Bundle.sort_text hu ha (hstable.of_perm hperm hnodup)

/-- A declaration with a comment before it, and deeper lines behind it that would be a comment and a
declaration elsewhere. -/
def Bundle.deep : Bundle .standard 0 where
  comments := ["# z\n".toList]
  first := "gem 'b',\n".toList
  tail := ["  # deep\n".toList, "  gem 'a'\n".toList]
  isComment := by decide +kernel
  isDeclaration := by decide +kernel
  indent := by decide +kernel
  named := by decide +kernel
  continued := by decide +kernel
  terminated := by decide +kernel

/-- A declaration with a line at its own indent that continues it. -/
def Bundle.plain : Bundle .standard 0 where
  comments := []
  first := "gem 'A',\n".toList
  tail := ["require: false\n".toList]
  isComment := by decide +kernel
  isDeclaration := by decide +kernel
  indent := by decide +kernel
  named := by decide +kernel
  continued := by decide +kernel
  terminated := by decide +kernel

set_option maxRecDepth 20000 in
theorem sort_bundles_deep :
    Config.vocabulary {} = .ok Vocabulary.standard ∧ Vocabulary.standard.Apart ∧
      ([Bundle.deep, Bundle.plain].map Bundle.key).Nodup ∧
      Vocabulary.standard.sort "# z\ngem 'b',\n  # deep\n  gem 'a'\ngem 'A',\nrequire: false\n" =
        "gem 'A',\nrequire: false\n# z\ngem 'b',\n  # deep\n  gem 'a'\n" ∧
      Vocabulary.standard.sort "gem 'A',\nrequire: false\n# z\ngem 'b',\n  # deep\n  gem 'a'\n" =
        "gem 'A',\nrequire: false\n# z\ngem 'b',\n  # deep\n  gem 'a'\n" := by
  have hv := Config.vocabulary_standard
  have ha := Vocabulary.standard_apart
  have hnodup : ([Bundle.deep, Bundle.plain].map Bundle.key).Nodup := by decide +kernel
  have hsame := (sort_bundles hv ha [Bundle.deep, Bundle.plain]).2 _ (List.Perm.swap _ _ _) hnodup
  have hdeep : Bundle.text [Bundle.deep, Bundle.plain] =
      "# z\ngem 'b',\n  # deep\n  gem 'a'\ngem 'A',\nrequire: false\n" := by decide +kernel
  have hplain : Bundle.text [Bundle.plain, Bundle.deep] =
      "gem 'A',\nrequire: false\n# z\ngem 'b',\n  # deep\n  gem 'a'\n" := by decide +kernel
  have hsort : Vocabulary.standard.sort
      "# z\ngem 'b',\n  # deep\n  gem 'a'\ngem 'A',\nrequire: false\n" =
        "gem 'A',\nrequire: false\n# z\ngem 'b',\n  # deep\n  gem 'a'\n" := by cbv
  rw [hdeep, hplain, hsort] at hsame
  exact ⟨hv, ha, hnodup, hsort, hsame⟩

end GemOrder

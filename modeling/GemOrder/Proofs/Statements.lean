import GemOrder.Proofs.Classes
import Mathlib

namespace GemOrder

variable {v : Vocabulary}

/-- A search along lines that exist goes as far as it can. -/
theorem linesWhile?_greatest (p : Line → Bool) {ls : List Line} {i stop : Nat} (hi : i ≤ stop)
    (hs : stop ≤ ls.length) :
    ∃ xs, linesWhile? p ls i stop = some xs ∧
      IsGreatest {m | i ≤ m ∧ m ≤ stop ∧ ∀ j, i ≤ j → j < m → ∀ l ∈ ls[j]?, p l = true}
        (i + xs.length) := by
  fun_induction linesWhile? p ls i stop with
  | case1 i h hl =>
    have hlen := List.getElem?_eq_none_iff.mp hl
    omega
  | case2 i h l hl hp ih =>
    obtain ⟨xs, hxs, ⟨hle, hstop, hall⟩, hmax⟩ := ih h
    have hsum : i + (l :: xs).length = i + 1 + xs.length := by
      rw [List.length_cons]
      omega
    refine ⟨l :: xs, by rw [hxs]; rfl, ?_⟩
    rw [hsum]
    refine ⟨⟨by omega, hstop, ?_⟩, ?_⟩
    · intro j hij hj k hk
      rcases Nat.eq_or_lt_of_le hij with rfl | hlt
      · rw [hl, Option.mem_some_iff] at hk
        exact hk ▸ hp
      · exact hall j hlt hj k hk
    · rintro m ⟨him, hm, hfollow⟩
      rcases Nat.eq_or_lt_of_le him with rfl | hlt
      · omega
      · exact hmax ⟨hlt, hm, fun j hij => hfollow j (by omega)⟩
  | case3 i h l hl hp =>
    refine ⟨[], rfl, ⟨le_refl i, hi, fun j hij hj => absurd hj (not_lt.mpr hij)⟩, ?_⟩
    rintro m ⟨him, hm, hfollow⟩
    -- a line that stops the search stands in none of the longer ranges
    by_contra hlt
    exact hp (hfollow i (le_refl i) (by simpa using hlt) l hl)
  | case4 i h =>
    refine ⟨[], rfl, ⟨le_refl i, hi, fun j hij hj => absurd hj (not_lt.mpr hij)⟩, ?_⟩
    rintro m ⟨-, hm, -⟩
    exact hm.trans (not_lt.mp h)

/-- Where the statement that `first` opens at line `start` could end: behind lines all of which can
follow it. -/
def Vocabulary.ends (v : Vocabulary) (first : Line) (ls : List Line) (start stop : Nat) : Set Nat :=
  {m | start < m ∧ m ≤ stop ∧ ∀ i, start < i → i < m → ∀ l ∈ ls[i]?, v.Follows first l}

theorem statementEnd?_greatest (v : Vocabulary) {ls : List Line} {start stop : Nat} {first : Line}
    (hfirst : ls[start]? = some first) (h : start < stop) (hs : stop ≤ ls.length) :
    ∃ m, statementEnd? v ls start stop = some m ∧ IsGreatest (v.ends first ls start stop) m := by
  obtain ⟨xs, hxs, hmax⟩ := linesWhile?_greatest (v.continues first) h hs
  refine ⟨start + 1 + xs.length, ?_, ?_⟩
  · rw [statementEnd?, hfirst]
    simp [hxs]
  · simp only [Vocabulary.continues_iff_follows] at hmax
    exact hmax

/-- In a range of lines, a statement ends as late as it can with all its lines able to follow the first
one. So no declaration in it is indented as its first line or less, and with a first line that is
indented less it would go at least as far. -/
theorem statement_extent {c : Config} {v : Vocabulary} (hv : c.vocabulary = .ok v) {ls : List Line}
    {start stop : Nat} (h : start < stop) (hs : stop ≤ ls.length) :
    ∃ first m, ls[start]? = some first ∧ statementEnd? v ls start stop = some m ∧
      IsGreatest (v.ends first ls start stop) m ∧
      (∀ i l, start < i → i < m → ls[i]? = some l → v.isDeclaration l = true →
        first.indent < l.indent) ∧
      ∀ other : Line, other.indent ≤ first.indent →
        ∃ m', statementEnd? v (ls.set start other) start stop = some m' ∧ m ≤ m' := by
  have hlen : start < ls.length := h.trans_le hs
  have hfirst : ls[start]? = some ls[start] := List.getElem?_eq_getElem hlen
  obtain ⟨m, hm, hmax⟩ := statementEnd?_greatest v hfirst h hs
  refine ⟨_, m, hfirst, hm, hmax, ?_, ?_⟩
  · intro i l hi him hl hd
    have hfollows := hmax.1.2.2 i hi him l hl
    exact hfollows.declaration_deeper (Config.vocabulary_usable hv) hd
  · intro other hle
    have hother : (ls.set start other)[start]? = some other := List.getElem?_set_self hlen
    obtain ⟨m', hm', hmax'⟩ := statementEnd?_greatest v hother h (by simpa using hs)
    refine ⟨m', hm', hmax.mono hmax' ?_⟩
    rintro n ⟨hn, hstop, hfollow⟩
    refine ⟨hn, hstop, fun i hi hin l hl => ?_⟩
    rw [List.getElem?_set_ne hi.ne] at hl
    exact (hfollow i hi hin l hl).of_indent_le hle

/-- A statement with lines at several depths, and a line behind it. -/
def Line.deepening : List Line :=
  ["  gem 'a',\n".toList, "require: 'x',\n".toList, "    # y\n".toList, "   gem 'b'\n".toList,
   "  ruby '3'\n".toList]

set_option maxRecDepth 20000 in
/-- A comment and a declaration that are indented deeper belong to the statement, and so would the line
behind it if the first line were not indented. -/
theorem statement_extent_deepening :
    statementEnd? .standard Line.deepening 0 5 = some 4 ∧
      IsGreatest (Vocabulary.standard.ends "  gem 'a',\n".toList Line.deepening 0 5) 4 ∧
      Vocabulary.standard.isDeclaration "   gem 'b'\n".toList = true ∧
      Line.indent "  gem 'a',\n".toList < Line.indent "   gem 'b'\n".toList ∧
      ∃ m, statementEnd? .standard (Line.deepening.set 0 "gem 'a',\n".toList) 0 5 = some m ∧ 4 ≤ m := by
  obtain ⟨first, m, hfirst, hm, hmax, hdeeper, hother⟩ := statement_extent Config.vocabulary_standard
    (by decide : 0 < 5) (by decide : 5 ≤ Line.deepening.length)
  have hend : statementEnd? .standard Line.deepening 0 5 = some 4 := by cbv
  cases hfirst
  cases hend.symm.trans hm
  have hdeclaration : Vocabulary.standard.isDeclaration "   gem 'b'\n".toList = true := by decide
  exact ⟨hend, hmax, hdeclaration, hdeeper 3 _ (by decide) (by decide) rfl hdeclaration,
    hother _ (by decide)⟩

end GemOrder

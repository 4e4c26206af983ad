import GemOrder.Proofs.Unseen
import Mathlib

namespace GemOrder

namespace Source

theorem utf8Len_perm {cs ds : List Char} (h : cs.Perm ds) : String.utf8Len cs = String.utf8Len ds := by
  induction h with
  | nil => rfl
  | cons c _ ih => rw [String.utf8Len_cons, String.utf8Len_cons, ih]
  | swap c d cs =>
    simp only [String.utf8Len_cons]
    omega
  | trans _ _ ih₁ ih₂ => exact ih₁.trans ih₂

/-- The lines of a text are the text and what completes it. -/
theorem flatten_split (text : List Char) : (split text).lines.flatten = text ++ (split text).added := by
  obtain ⟨ls, rest, -, -, ht, ⟨hrest, hs⟩ | ⟨-, e, -, hs⟩⟩ := split_cases text
  · rw [hs, ht, hrest]
    simp
  · rw [hs, ht]
    simp

/-- A text is complete if it ends in a newline or is empty. -/
theorem added_eq_nil_iff (text : List Char) :
    (split text).added = [] ↔ text = [] ∨ text.getLast? = some '\n' := by
  constructor
  · intro h
    have hterm := split_terminated text
    have hflat := flatten_split text
    rw [h, List.append_nil] at hflat
    generalize (split text).lines = ls at hterm hflat
    subst hflat
    rcases List.eq_nil_or_concat ls with rfl | ⟨init, l, rfl⟩
    · exact Or.inl rfl
    · obtain ⟨m, -, rfl⟩ := hterm l (by simp)
      exact Or.inr (by simp)
  · intro h
    obtain ⟨ls, hls, rfl⟩ := exists_terminated h
    rw [split_flatten hls]

/-- A carriage return stands before some newline. -/
theorem hasCarriageReturn_iff (text : List Char) :
    hasCarriageReturn text = true ↔ ['\r', '\n'] <:+: text := by
  fun_induction hasCarriageReturn text with
  | case1 => simp
  | case2 rest => simp [List.infix_cons_iff]
  | case3 c cs hne ih =>
    rw [ih, List.infix_cons_iff]
    refine ⟨Or.inr, fun h => h.resolve_left ?_⟩
    rintro ⟨rest, hrest⟩
    simp only [List.cons_append, List.nil_append, List.cons.injEq] at hrest
    exact hne rest hrest.1.symm hrest.2.symm

/-- What is added to a text has a carriage return exactly if the text has one before a newline. -/
theorem added_of_incomplete {text : List Char} (h : (split text).added ≠ []) :
    (split text).added = if hasCarriageReturn text then ['\r', '\n'] else ['\n'] := by
  change missing text ≠ [] at h
  change missing text = _
  unfold missing at h ⊢
  split
  · rename_i hc
    exact absurd (if_pos hc) h
  · rfl

theorem missing_rest (text : List Char) {rest : List Char} (hrest : '\n' ∉ rest) (hne : rest ≠ []) :
    missing (text ++ rest) = if hasCarriageReturn (text ++ rest) then ['\r', '\n'] else ['\n'] := by
  have hopen : missing (text ++ rest) ≠ [] := by
    rcases missing_unterminated text hrest hne with h | h <;> simp [h]
  exact added_of_incomplete hopen

/-- Only the empty text has no lines. -/
theorem eq_nil_of_lines {text : List Char} (h : (split text).lines = []) :
    text = [] ∧ (split text).added = [] := by
  have hflat := flatten_split text
  rw [h, List.flatten_nil] at hflat
  exact List.append_eq_nil_iff.mp hflat.symm

section Moved

variable {text : List Char} {ls : List Line}

theorem getLast?_flatten (hp : ls.Perm (split text).lines) (hne : ls ≠ []) :
    ls.flatten.getLast? = some '\n' := by
  rcases List.eq_nil_or_concat ls with rfl | ⟨init, l, rfl⟩
  · contradiction
  · obtain ⟨m, -, rfl⟩ := split_terminated text l (hp.mem_iff.mp (by simp))
    simp

/-- Lines that were moved are as long together as the text and what completed it. -/
theorem utf8Len_flatten (hp : ls.Perm (split text).lines) :
    String.utf8Len ls.flatten = String.utf8Len text + String.utf8Len (split text).added := by
  rw [utf8Len_perm hp.flatten, flatten_split, String.utf8Len_append]

theorem utf8Len_join (hp : ls.Perm (split text).lines) (h : (split text).added <:+ ls.flatten) :
    String.utf8Len ((split text).join ls) = String.utf8Len text := by
  obtain ⟨kept, hk⟩ := h
  have hlen := utf8Len_flatten hp
  rw [join_of_append kept hk.symm]
  rw [← hk, String.utf8Len_append] at hlen
  omega

/-- Lines end in a newline, so that a single newline is always found at their end. -/
theorem suffix_of_newline (hp : ls.Perm (split text).lines)
    (h : (split text).added = [] ∨ (split text).added = ['\n']) : (split text).added <:+ ls.flatten := by
  rcases h with h | h
  · rw [h]
    exact List.nil_suffix
  · have hne : ls ≠ [] := by
      rintro rfl
      have hnone := (eq_nil_of_lines (List.perm_nil.mp hp.symm)).2
      simp [h] at hnone
    obtain ⟨kept, hk⟩ := List.getLast?_eq_some_iff.mp (getLast?_flatten hp hne)
    rw [h, hk]
    exact List.suffix_append _ _

/-- The text that is joined from moved lines ends as the text did that they were split from. -/
theorem getLast?_join (hp : ls.Perm (split text).lines) (h : (split text).added <:+ ls.flatten)
    (hlast : (split text).added ≠ [] → ∀ l ∈ ls.getLast?, l ≠ (split text).added) :
    ((split text).join ls).getLast? = some '\n' ↔ text.getLast? = some '\n' := by
  have hterm : ∀ l ∈ ls, l.Terminated := fun l hl => split_terminated text l (hp.mem_iff.mp hl)
  have hdone := added_eq_nil_iff text
  rcases added_cases text with ha | ha
  · -- nothing was added, so nothing is taken away
    rw [join_of_append ls.flatten (by rw [ha, List.append_nil])]
    by_cases hls : ls = []
    · subst hls
      simp [(eq_nil_of_lines (List.perm_nil.mp hp.symm)).1]
    · have hne : text ≠ [] := by
        rintro rfl
        exact hls (List.perm_nil.mp hp)
      exact iff_of_true (getLast?_flatten hp hls) ((hdone.mp ha).resolve_left hne)
  · have hadd : (split text).added ≠ [] := by rcases ha with ha | ha <;> simp [ha]
    have hopen : ¬ text.getLast? = some '\n' := fun hl => hadd (hdone.mpr (Or.inr hl))
    rcases List.eq_nil_or_concat ls with rfl | ⟨init, l, rfl⟩
    · exact absurd (List.suffix_nil.mp h) hadd
    · rw [List.concat_eq_append] at *
      obtain ⟨m, hm, rfl⟩ := hterm l (by simp)
      have hinit : ∀ j ∈ init, j.Terminated := fun j hj => hterm j (by simp [hj])
      obtain ⟨k, hnl, hk⟩ := completion_suffix ha hinit hm (by simpa using h)
      have hne : k ≠ [] := by
        rintro rfl
        exact hlast hadd (m ++ ['\n']) (by simp) hk
      have hkept : ¬ k.getLast? = some '\n' := fun hl => hnl (List.mem_of_getLast? hl)
      rw [join_of_append (init.flatten ++ k) (by simp [hk]), List.getLast?_append_of_ne_nil _ hne]
      exact iff_of_false hkept hopen

/-- What completed a text is found at the end of moved lines if the last of them ends in it. -/
theorem added_suffix_iff (hp : ls.Perm (split text).lines) :
    (split text).added <:+ ls.flatten ↔ ∀ l ∈ ls.getLast?, (split text).added <:+ l := by
  have hterm : ∀ l ∈ ls, l.Terminated := fun l hl => split_terminated text l (hp.mem_iff.mp hl)
  rcases List.eq_nil_or_concat ls with rfl | ⟨init, l, rfl⟩
  · simp [(eq_nil_of_lines (List.perm_nil.mp hp.symm)).2]
  · obtain ⟨m, hm, rfl⟩ := hterm l (by simp)
    rw [List.concat_eq_append] at *
    simp only [List.getLast?_concat, Option.mem_some_iff, forall_eq', List.flatten_concat]
    constructor
    · intro h
      rcases added_cases text with ha | ha
      · rw [ha]
        exact List.nil_suffix
      · have hinit : ∀ j ∈ init, j.Terminated := fun j hj => hterm j (by simp [hj])
        obtain ⟨k, -, hk⟩ := completion_suffix ha hinit hm h
        exact ⟨k, hk.symm⟩
    · exact fun h => h.trans (List.suffix_append _ _)

end Moved

end Source

namespace Vocabulary

variable (v : Vocabulary) (text : String)

/-- Sorting a text keeps its size, and the sorted text ends in a newline if the text does. -/
def KeepsEnd : Prop :=
  ((v.sort text).toList.getLast? = some '\n' ↔ text.toList.getLast? = some '\n') ∧
    (v.sort text).utf8ByteSize = text.utf8ByteSize

theorem utf8ByteSize_eq (s : String) : s.utf8ByteSize = String.utf8Len s.toList := by
  rw [← String.utf8ByteSize_ofList, String.ofList_toList]

theorem keepsEnd_of_suffix
    (h : (Source.split text.toList).added <:+
      (Sorter.sortLines v (Source.split text.toList).lines).flatten) : v.KeepsEnd text := by
  have hp := Sorter.sortLines_perm v (Source.split text.toList).lines
  rw [KeepsEnd, utf8ByteSize_eq, utf8ByteSize_eq, v.sort_toList]
  exact ⟨Source.getLast?_join hp h (Sorter.sortLines_getLast_ne v text.toList), Source.utf8Len_join hp h⟩

/-- Where the sorted lines do not end in what the text was completed with, this stays in the sorted
text. -/
theorem end_of_not_suffix
    (h : ¬ (Source.split text.toList).added <:+
      (Sorter.sortLines v (Source.split text.toList).lines).flatten) :
    Source.hasCarriageReturn text.toList = true ∧ text.toList.getLast? ≠ some '\n' ∧
      (v.sort text).toList.getLast? = some '\n' ∧
      (v.sort text).utf8ByteSize = text.utf8ByteSize + 2 := by
  have hp := Sorter.sortLines_perm v (Source.split text.toList).lines
  have hadd : (Source.split text.toList).added = ['\r', '\n'] := by
    rcases Source.added_cases text.toList with ha | ha | ha
    · exact absurd (Source.suffix_of_newline hp (Or.inl ha)) h
    · exact absurd (Source.suffix_of_newline hp (Or.inr ha)) h
    · exact ha
  have hopen : (Source.split text.toList).added ≠ [] := by simp [hadd]
  have hsort : (v.sort text).toList = (Sorter.sortLines v (Source.split text.toList).lines).flatten := by
    rw [v.sort_toList]
    exact Source.join_of_not_suffix h
  refine ⟨?_, ?_, ?_, ?_⟩
  · have hadded := Source.added_of_incomplete hopen
    rw [hadd] at hadded
    by_contra hno
    simp [hno] at hadded
  · intro hl
    exact hopen ((Source.added_eq_nil_iff text.toList).mpr (Or.inr hl))
  · rw [hsort]
    apply Source.getLast?_flatten hp
    -- without lines there is nothing to complete
    intro hnil
    rw [hnil] at hp
    exact hopen (Source.eq_nil_of_lines (List.perm_nil.mp hp.symm)).2
  · rw [utf8ByteSize_eq, utf8ByteSize_eq, hsort, Source.utf8Len_flatten hp, hadd]
    rfl

end Vocabulary

/-- Sorting keeps the size and the end of a text exactly if the line that comes to stand last ends in
what the text was completed with. Otherwise the text uses carriage returns, does not end in a newline,
and gets one of two characters. It cannot happen where all newlines are of one kind. -/
theorem sort_keepsEnd_iff (v : Vocabulary) (text : String) :
    (v.KeepsEnd text ↔ ∀ l ∈ (Sorter.sortLines v (Source.split text.toList).lines).getLast?,
      (Source.split text.toList).added <:+ l) ∧
    (¬ v.KeepsEnd text →
      Source.hasCarriageReturn text.toList = true ∧ text.toList.getLast? ≠ some '\n' ∧
        (v.sort text).toList.getLast? = some '\n' ∧
        (v.sort text).utf8ByteSize = text.utf8ByteSize + 2) ∧
    ((Source.hasCarriageReturn text.toList = false ∨
        ∀ l ∈ (Source.split text.toList).lines, ['\r', '\n'] <:+ l) → v.KeepsEnd text) := by
  have hp := Sorter.sortLines_perm v (Source.split text.toList).lines
  have hkeep : v.KeepsEnd text ↔ (Source.split text.toList).added <:+
      (Sorter.sortLines v (Source.split text.toList).lines).flatten := by
    refine ⟨fun h => ?_, v.keepsEnd_of_suffix text⟩
    by_contra hno
    have hsize := (v.end_of_not_suffix text hno).2.2.2
    have hsame := h.2
    omega
  refine ⟨hkeep.trans (Source.added_suffix_iff hp), ?_, ?_⟩
  · intro h
    exact v.end_of_not_suffix text (fun hs => h (hkeep.mpr hs))
  · rintro (h | h)
    · by_contra hno
      have hcr := (v.end_of_not_suffix text (fun hs => hno (hkeep.mpr hs))).1
      rw [h] at hcr
      contradiction
    · rw [hkeep, Source.added_suffix_iff hp]
      intro l hl
      have hend := h l (hp.mem_iff.mp (List.mem_of_getLast? hl))
      rcases Source.added_cases text.toList with ha | ha | ha
      · exact ha ▸ List.nil_suffix
      · exact ha ▸ List.IsSuffix.trans ⟨['\r'], rfl⟩ hend
      · exact ha ▸ hend

set_option maxRecDepth 20000 in
/-- The line of `a` is completed as the first line ends, and the line of `c` comes to stand last, which
ends in another way. -/
theorem sort_keepsEnd_mixed : ¬ Vocabulary.standard.KeepsEnd "gem 'b'\r\ngem 'c'\ngem 'a'" := by
  have hsort : Vocabulary.standard.sort "gem 'b'\r\ngem 'c'\ngem 'a'" =
      "gem 'a'\r\ngem 'b'\r\ngem 'c'\n" := by cbv
  rw [Vocabulary.KeepsEnd, hsort]
  decide

namespace Line

/-- A line that ends in a newline alone and holds no carriage return. -/
def Plain (l : Line) : Prop :=
  ∃ m, '\n' ∉ m ∧ '\r' ∉ m ∧ l = m ++ ['\n']

/-- A line with a carriage return before the newline at its end. -/
def returned (l : Line) : Line :=
  l.content ++ ['\r', '\n']

theorem content_of_not_mem {m : Line} (hn : '\n' ∉ m) (hr : '\r' ∉ m) : content m = m := by
  rw [content, List.rdropWhile_eq_self_iff]
  intro hne he
  simp only [isEol, Bool.or_eq_true, beq_iff_eq] at he
  have hmem := List.getLast_mem hne
  rcases he with he | he
  · exact hr (he ▸ hmem)
  · exact hn (he ▸ hmem)

theorem returned_append_newline {m : Line} (hn : '\n' ∉ m) (hr : '\r' ∉ m) :
    returned (m ++ ['\n']) = m ++ ['\r', '\n'] := by
  rw [returned, content_append (by simp [isEol]), content_of_not_mem hn hr]

theorem content_returned (l : Line) : l.returned.content = l.content := by
  obtain ⟨e, he, hl⟩ := l.eq_content_append
  have hsame : l.content = l.content.content := by
    conv_lhs => rw [hl]
    exact content_append he
  rw [returned, content_append (by simp [isEol]), ← hsame]

theorem Plain.returned_terminated {l : Line} (h : l.Plain) : l.returned.Terminated := by
  obtain ⟨m, hn, hr, rfl⟩ := h
  rw [returned_append_newline hn hr]
  exact ⟨m ++ ['\r'], by simp [hn], by simp⟩

end Line

/-- A text with a carriage return before each newline, in characters. -/
def Source.crlf (text : List Char) : List Char :=
  text.flatMap fun c => if c = '\n' then ['\r', '\n'] else [c]

/-- A text with a carriage return before each newline. -/
def crlf (text : String) : String :=
  String.ofList (Source.crlf text.toList)

namespace Source

@[simp] theorem crlf_append (text rest : List Char) : crlf (text ++ rest) = crlf text ++ crlf rest :=
  List.flatMap_append

theorem crlf_of_not_mem {m : List Char} (h : '\n' ∉ m) : crlf m = m := by
  induction m with
  | nil => rfl
  | cons c m ih =>
    simp only [List.mem_cons, not_or] at h
    have hc : c ≠ '\n' := Ne.symm h.1
    rw [crlf, List.flatMap_cons, if_neg hc, List.singleton_append]
    exact congrArg (c :: ·) (ih h.2)

theorem crlf_flatten {ls : List Line} (h : ∀ l ∈ ls, l.Plain) :
    crlf ls.flatten = (ls.map Line.returned).flatten := by
  induction ls with
  | nil => rfl
  | cons l ls ih =>
    obtain ⟨m, hn, hr, rfl⟩ := h l (by simp)
    rw [List.flatten_cons, crlf_append, crlf_append, crlf_of_not_mem hn,
      ih (fun k hk => h k (by simp [hk])), List.map_cons, List.flatten_cons,
      Line.returned_append_newline hn hr]
    rfl

theorem hasCarriageReturn_crlf {text : List Char} (h : '\n' ∈ text) :
    hasCarriageReturn (crlf text) = true := by
  obtain ⟨before, behind, rfl⟩ := List.append_of_mem h
  rw [hasCarriageReturn_iff, crlf_append]
  exact ⟨crlf before, crlf behind, by simp [crlf]⟩

theorem hasCarriageReturn_of_not_mem {text : List Char} (h : '\r' ∉ text) :
    hasCarriageReturn text = false := by
  apply Bool.eq_false_iff.mpr
  intro hc
  exact h (((hasCarriageReturn_iff text).mp hc).subset List.mem_cons_self)

/-- A text of several lines and the same text with carriage returns are split at the same places and
completed each in its own way. -/
theorem split_crlf {text : List Char} (hr : '\r' ∉ text) (hn : '\n' ∈ text) :
    ∃ ls : List Line, (∀ l ∈ ls, l.Plain) ∧
      (split text = ⟨ls, []⟩ ∧ split (crlf text) = ⟨ls.map Line.returned, []⟩ ∨
        split text = ⟨ls, ['\n']⟩ ∧ split (crlf text) = ⟨ls.map Line.returned, ['\r', '\n']⟩) := by
  obtain ⟨ls, rest, hls, hrest, htext⟩ := Line.exists_lines text
  have hplain : ∀ l ∈ ls, l.Plain := by
    intro l hl
    obtain ⟨m, hm, rfl⟩ := hls l hl
    refine ⟨m, hm, fun hc => hr ?_, rfl⟩
    rw [htext]
    exact List.mem_append_left _ (List.mem_flatten.mpr ⟨_, hl, by simp [hc]⟩)
  have hterm : ∀ l ∈ ls.map Line.returned, l.Terminated := by
    simpa using fun l hl => (hplain l hl).returned_terminated
  have hcrlf : crlf text = (ls.map Line.returned).flatten ++ rest := by
    rw [htext, crlf_append, crlf_flatten hplain, crlf_of_not_mem hrest]
  by_cases hne : rest = []
  · rw [hne, List.append_nil] at htext hcrlf
    exact ⟨ls, hplain, Or.inl ⟨htext ▸ split_flatten hls, hcrlf ▸ split_flatten hterm⟩⟩
  · have hrest' : '\r' ∉ rest := fun hc => hr (by rw [htext]; exact List.mem_append_right _ hc)
    have hs : split text = ⟨ls ++ [rest ++ ['\n']], ['\n']⟩ := by
      have hmissing := missing_rest ls.flatten hrest hne
      rw [← htext, hasCarriageReturn_of_not_mem hr] at hmissing
      rw [htext, split_rest hls hrest hne, ← htext, hmissing]
      rfl
    have hs' : split (crlf text) = ⟨ls.map Line.returned ++ [rest ++ ['\r', '\n']], ['\r', '\n']⟩ := by
      have hmissing := missing_rest (ls.map Line.returned).flatten hrest hne
      rw [← hcrlf, hasCarriageReturn_crlf hn] at hmissing
      rw [hcrlf, split_rest hterm hrest hne, ← hcrlf, hmissing]
      rfl
    refine ⟨ls ++ [rest ++ ['\n']], ?_, Or.inr ⟨hs, ?_⟩⟩
    · intro l hl
      rcases List.mem_append.mp hl with hl | hl
      · exact hplain l hl
      · rw [List.mem_singleton.mp hl]
        exact ⟨rest, hrest, hrest', rfl⟩
    · rw [hs', List.map_append, List.map_singleton, Line.returned_append_newline hrest hrest']

/-- Joining lines and putting carriage returns before their newlines can be done in either order. -/
theorem join_returned (ks : List Line) {ls : List Line} (hls : ∀ l ∈ ls, l.Plain) :
    (⟨ks.map Line.returned, []⟩ : Source).join (ls.map Line.returned) =
        crlf ((⟨ks, []⟩ : Source).join ls) ∧
      (ls ≠ [] → (⟨ks.map Line.returned, ['\r', '\n']⟩ : Source).join (ls.map Line.returned) =
        crlf ((⟨ks, ['\n']⟩ : Source).join ls)) := by
  constructor
  · rw [join_of_append (ls.map Line.returned).flatten (by simp), join_of_append ls.flatten (by simp),
      crlf_flatten hls]
  · intro hne
    rcases List.eq_nil_or_concat ls with rfl | ⟨init, l, rfl⟩
    · contradiction
    · rw [List.concat_eq_append] at *
      obtain ⟨m, hn, hr, rfl⟩ := hls l (by simp)
      have hinit : ∀ k ∈ init, k.Plain := fun k hk => hls k (by simp [hk])
      have hreturned := Line.returned_append_newline hn hr
      rw [join_of_append ((init.map Line.returned).flatten ++ m) (by simp [hreturned]),
        join_of_append (init.flatten ++ m) (by simp), crlf_append, crlf_flatten hinit,
        crlf_of_not_mem hn]

end Source

theorem Vocabulary.unseen_returned {v : Vocabulary} (hv : v.Usable) : v.Unseen Line.returned := by
  have hc := unseen_content hv
  have hsame {α : Type} (f : Line → α) (hf : ∀ l : Line, f l.content = f l) (l : Line) :
      f l.returned = f l := by
    rw [← hf l.returned, Line.content_returned, hf]
  exact ⟨hsame _ hc.isBlank, hsame _ hc.indent, hsame _ hc.isComment, hsame _ hc.isDeclaration,
    hsame _ hc.isHeader, hsame _ hc.isCloser, hsame _ hc.isStarter, hsame _ hc.declaredName?⟩

theorem Sorter.sortText_crlf {v : Vocabulary} (hv : v.Usable) {text : List Char} (hr : '\r' ∉ text) :
    sortText v (Source.crlf text) = Source.crlf (sortText v text) := by
  by_cases hn : '\n' ∈ text
  · obtain ⟨ls, hls, hs⟩ := Source.split_crlf hr hn
    have hmap := sortLines_map (Vocabulary.unseen_returned hv) ls
    have hp := sortLines_perm v ls
    have hsorted : ∀ l ∈ sortLines v ls, l.Plain := fun l hl => hls l (hp.mem_iff.mp hl)
    have hjoin := Source.join_returned ls hsorted
    rw [sortText, sortText]
    rcases hs with ⟨hs, hs'⟩ | ⟨hs, hs'⟩
    · simp only [hs, hs', hmap]
      exact hjoin.1
    · simp only [hs, hs', hmap]
      apply hjoin.2
      intro hnil
      rw [hnil] at hp
      have hlines : (Source.split text).lines = [] := by rw [hs, List.perm_nil.mp hp.symm]
      have hnone := (Source.eq_nil_of_lines hlines).2
      simp [hs] at hnone
  · rw [Source.crlf_of_not_mem hn, Vocabulary.sortText_single v hn, Source.crlf_of_not_mem hn]

/-- Whether the newlines of a text have a carriage return before them makes no difference to how it is
sorted. -/
theorem sort_crlf {c : Config} {v : Vocabulary} (hv : c.vocabulary = .ok v) {text : String}
    (hr : '\r' ∉ text.toList) : v.sort (crlf text) = crlf (v.sort text) := by
  have hsort := Sorter.sortText_crlf (Config.vocabulary_usable hv) hr
  rw [← String.toList_inj, v.sort_toList, crlf, crlf, String.toList_ofList, String.toList_ofList,
    v.sort_toList, hsort]

set_option maxRecDepth 20000 in
/-- A bare keyword, a blank line and a line that is not terminated. -/
theorem sort_crlf_bare :
    '\r' ∉ "gem 'c'\n\ngem 'b'\ngem\n# x\ngem 'b'\ngem 'a'".toList ∧
      Vocabulary.standard.sort "gem 'c'\r\n\r\ngem 'b'\r\ngem\r\n# x\r\ngem 'b'\r\ngem 'a'" =
        crlf (Vocabulary.standard.sort "gem 'c'\n\ngem 'b'\ngem\n# x\ngem 'b'\ngem 'a'") := by
  have hr : '\r' ∉ "gem 'c'\n\ngem 'b'\ngem\n# x\ngem 'b'\ngem 'a'".toList := by decide
  have hcrlf : crlf "gem 'c'\n\ngem 'b'\ngem\n# x\ngem 'b'\ngem 'a'" =
      "gem 'c'\r\n\r\ngem 'b'\r\ngem\r\n# x\r\ngem 'b'\r\ngem 'a'" := by cbv
  rw [← hcrlf]
  exact ⟨hr, sort_crlf Config.vocabulary_standard hr⟩

end GemOrder

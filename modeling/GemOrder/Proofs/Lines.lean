import GemOrder.Source
import Mathlib.Data.List.DropRight

namespace GemOrder

namespace Line

/-- A newline ends the line and stands nowhere else in it. -/
def Terminated (l : Line) : Prop :=
  ∃ m, '\n' ∉ m ∧ l = m ++ ['\n']

theorem terminated_iff {l : Line} : l.Terminated ↔ l.getLast? = some '\n' ∧ '\n' ∉ l.dropLast := by
  constructor
  · rintro ⟨m, hm, rfl⟩
    simpa using hm
  · rintro ⟨hlast, hm⟩
    exact ⟨l.dropLast, hm, (List.dropLast_append_getLast? '\n' hlast).symm⟩

instance (l : Line) : Decidable l.Terminated :=
  decidable_of_iff _ terminated_iff.symm

/-- The characters that a line can end in. -/
def isEol (c : Char) : Bool :=
  c == '\r' || c == '\n'

/-- A line without the carriage returns and newlines at its end. -/
def content (l : Line) : Line :=
  l.rdropWhile isEol

theorem content_append {l e : Line} (he : ∀ c ∈ e, isEol c = true) : content (l ++ e) = content l := by
  induction e using List.reverseRecOn with
  | nil => rw [List.append_nil]
  | append_singleton e c ih =>
    have hc : isEol c = true := he c (by simp)
    rw [← List.append_assoc, content, List.rdropWhile_concat_pos _ _ _ hc]
    exact ih (fun d hd => he d (by simp [hd]))

/-- A line is its content, followed by nothing but carriage returns and newlines. -/
theorem eq_content_append (l : Line) : ∃ e, (∀ c ∈ e, isEol c = true) ∧ l = content l ++ e := by
  refine ⟨l.rtakeWhile isEol, fun c hc => List.mem_rtakeWhile_imp hc, ?_⟩
  simp only [content, List.rdropWhile, List.rtakeWhile]
  rw [← List.reverse_append, List.takeWhile_append_dropWhile, List.reverse_reverse]

theorem cutFrom_of_not_mem {m : Line} (h : '\n' ∉ m) (read rest : List Char) :
    cutFrom read (m ++ rest) = cutFrom (m.reverse ++ read) rest := by
  induction m generalizing read with
  | nil => rfl
  | cons c m ih =>
    simp only [List.mem_cons, not_or] at h
    have hne : (c == '\n') = false := by simpa using Ne.symm h.1
    simp [cutFrom, hne, ih h.2]

/-- The first line of a text ends at the first newline. -/
theorem cut_line {l : Line} (h : l.Terminated) (rest : List Char) :
    cut (l ++ rest) = l :: cut rest := by
  obtain ⟨m, hm, rfl⟩ := h
  rw [cut, List.append_assoc, cutFrom_of_not_mem hm]
  simp [cutFrom, cut]

theorem cut_lines {ls : List Line} (h : ∀ l ∈ ls, l.Terminated) (rest : List Char) :
    cut (ls.flatten ++ rest) = ls ++ cut rest := by
  induction ls with
  | nil => rfl
  | cons l ls ih =>
    rw [List.flatten_cons, List.append_assoc, cut_line (h l (by simp)),
      ih (fun k hk => h k (by simp [hk])), List.cons_append]

theorem cut_flatten {ls : List Line} (h : ∀ l ∈ ls, l.Terminated) : cut ls.flatten = ls := by
  have hc := cut_lines h []
  simpa [cut, cutFrom] using hc

/-- What follows the last newline is a line unless it is empty. -/
theorem cut_rest {m : List Char} (h : '\n' ∉ m) : cut m = if m = [] then [] else [m] := by
  have := cutFrom_of_not_mem h [] []
  simp only [List.append_nil] at this
  simp only [cut, this, cutFrom, List.isEmpty_iff, List.reverse_eq_nil_iff, List.reverse_reverse]

/-- Every text is a list of terminated lines and a rest without a newline. -/
theorem exists_lines (text : List Char) :
    ∃ (ls : List Line) (rest : List Char),
      (∀ l ∈ ls, l.Terminated) ∧ '\n' ∉ rest ∧ text = ls.flatten ++ rest := by
  induction text with
  | nil => exact ⟨[], [], by simp, by simp, rfl⟩
  | cons c cs ih =>
    obtain ⟨ls, rest, hls, hrest, rfl⟩ := ih
    by_cases hc : c = '\n'
    · subst c
      refine ⟨['\n'] :: ls, rest, ?_, hrest, by simp⟩
      intro l hl
      rcases List.mem_cons.mp hl with rfl | hl
      · exact ⟨[], by simp, rfl⟩
      · exact hls l hl
    · cases ls with
      | nil => exact ⟨[], c :: rest, by simp, by simp [hrest, Ne.symm hc], by simp⟩
      | cons l ls =>
        obtain ⟨m, hm, rfl⟩ := hls l (by simp)
        refine ⟨(c :: m ++ ['\n']) :: ls, rest, ?_, hrest, by simp⟩
        intro k hk
        rcases List.mem_cons.mp hk with rfl | hk
        · exact ⟨c :: m, by simp [hm, Ne.symm hc], rfl⟩
        · exact hls k (by simp [hk])

end Line

namespace Source

/-- What completes a line is a newline, with or without a carriage return in front. -/
def IsCompletion (e : List Char) : Prop :=
  e = ['\n'] ∨ e = ['\r', '\n']

theorem missing_terminated {ls : List Line} (h : ∀ l ∈ ls, l.Terminated) :
    missing ls.flatten = [] := by
  rcases List.eq_nil_or_concat ls with rfl | ⟨init, l, rfl⟩
  · rfl
  · obtain ⟨m, -, rfl⟩ := h l (by simp)
    simp [missing]

/-- Terminated lines are split where they end, and nothing is added to them. -/
theorem split_flatten {ls : List Line} (h : ∀ l ∈ ls, l.Terminated) : split ls.flatten = ⟨ls, []⟩ := by
  rw [split, missing_terminated h, List.append_nil, Line.cut_flatten h]

theorem missing_unterminated (text : List Char) {rest : List Char} (h : '\n' ∉ rest)
    (hne : rest ≠ []) : IsCompletion (missing (text ++ rest)) := by
  have hlast : (text ++ rest).getLast? = some (rest.getLast hne) := by
    rw [List.getLast?_append_of_ne_nil _ hne, List.getLast?_eq_getLast_of_ne_nil hne]
  have hnl : rest.getLast hne ≠ '\n' := fun he => h (he ▸ List.getLast_mem hne)
  have hempty : (text ++ rest).isEmpty = false := by simp [hne]
  rw [missing, hlast, hempty]
  simp only [Option.any_some, beq_eq_false_iff_ne.mpr hnl, Bool.or_self, Bool.false_eq_true,
    ↓reduceIte]
  split
  · exact Or.inr rfl
  · exact Or.inl rfl

theorem completed {rest e : List Char} (h : '\n' ∉ rest) (he : IsCompletion e) :
    Line.Terminated (rest ++ e) := by
  rcases he with rfl | rfl
  · exact ⟨rest, h, rfl⟩
  · exact ⟨rest ++ ['\r'], by simp [h], by simp⟩

theorem IsCompletion.isEol {e : List Char} (h : IsCompletion e) : ∀ c ∈ e, Line.isEol c = true := by
  rcases h with rfl | rfl <;> simp [Line.isEol]

theorem split_rest {ls : List Line} {rest : List Char} (hls : ∀ l ∈ ls, l.Terminated)
    (hrest : '\n' ∉ rest) (hne : rest ≠ []) :
    split (ls.flatten ++ rest) =
      ⟨ls ++ [rest ++ missing (ls.flatten ++ rest)], missing (ls.flatten ++ rest)⟩ := by
  have hc := Line.cut_line (completed hrest (missing_unterminated ls.flatten hrest hne)) []
  rw [List.append_nil, show Line.cut [] = [] from rfl] at hc
  rw [split, List.append_assoc, Line.cut_lines hls, hc]

/-- A text is split into its terminated lines, and a rest behind them is completed. -/
theorem split_cases (text : List Char) :
    ∃ (ls : List Line) (rest : List Char),
      (∀ l ∈ ls, l.Terminated) ∧ '\n' ∉ rest ∧ text = ls.flatten ++ rest ∧
        ((rest = [] ∧ split text = ⟨ls, []⟩) ∨
          (rest ≠ [] ∧ ∃ e, IsCompletion e ∧ split text = ⟨ls ++ [rest ++ e], e⟩)) := by
  obtain ⟨ls, rest, hls, hrest, rfl⟩ := Line.exists_lines text
  refine ⟨ls, rest, hls, hrest, rfl, ?_⟩
  by_cases hne : rest = []
  · subst rest
    rw [List.append_nil]
    exact Or.inl ⟨rfl, split_flatten hls⟩
  · exact Or.inr ⟨hne, _, missing_unterminated ls.flatten hrest hne, split_rest hls hrest hne⟩

theorem split_terminated (text : List Char) : ∀ l ∈ (split text).lines, l.Terminated := by
  obtain ⟨ls, rest, hls, hrest, -, ⟨-, hs⟩ | ⟨-, e, he, hs⟩⟩ := split_cases text
  · rw [hs]
    exact hls
  · rw [hs]
    intro l hl
    rcases List.mem_append.mp hl with hl | hl
    · exact hls l hl
    · rw [List.mem_singleton.mp hl]
      exact completed hrest he

/-- Completing the last line does not change what the lines hold. -/
theorem split_contents (text : List Char) :
    (split text).lines.map Line.content = (Line.cut text).map Line.content := by
  obtain ⟨ls, rest, hls, hrest, rfl, ⟨hr, hs⟩ | ⟨hr, e, he, hs⟩⟩ := split_cases text
  · rw [hs, Line.cut_lines hls, Line.cut_rest hrest, if_pos hr, List.append_nil]
  · rw [hs, Line.cut_lines hls, Line.cut_rest hrest, if_neg hr]
    simp [Line.content_append he.isEol]

theorem added_cases (text : List Char) :
    (split text).added = [] ∨ IsCompletion (split text).added := by
  obtain ⟨ls, rest, -, -, -, ⟨-, hs⟩ | ⟨-, e, he, hs⟩⟩ := split_cases text
  · exact Or.inl (by rw [hs])
  · exact Or.inr (by rw [hs]; exact he)

/-- What completed the last line is not a line of its own. -/
theorem split_getLast_ne (text : List Char) (h : (split text).added ≠ []) :
    ∀ l ∈ (split text).lines.getLast?, l ≠ (split text).added := by
  obtain ⟨ls, rest, -, -, -, ⟨-, hs⟩ | ⟨hr, e, he, hs⟩⟩ := split_cases text
  · simp [hs] at h
  · simp [hs, hr]

theorem join_of_append {s : Source} {ls : List Line} (text : List Char)
    (h : ls.flatten = text ++ s.added) : s.join ls = text := by
  have hsuf : s.added.isSuffixOf (text ++ s.added) = true :=
    List.isSuffixOf_iff_suffix.mpr ⟨text, rfl⟩
  rw [join, h, if_pos hsuf]
  simp

theorem join_of_not_suffix {s : Source} {ls : List Line} (h : ¬ s.added <:+ ls.flatten) :
    s.join ls = ls.flatten := by
  rw [join, if_neg (by rwa [List.isSuffixOf_iff_suffix])]

@[simp] theorem join_split (text : List Char) : (split text).join (split text).lines = text := by
  obtain ⟨ls, rest, -, -, ht, ⟨rfl, hs⟩ | ⟨-, e, -, hs⟩⟩ := split_cases text
  · exact join_of_append _ (by rw [hs, ht]; simp)
  · exact join_of_append _ (by rw [hs, ht]; simp)

/-- A completion that ends some lines ends the last one of them. -/
theorem completion_suffix {init : List Line} {m e : List Char} (he : IsCompletion e)
    (hinit : ∀ k ∈ init, k.Terminated) (hm : '\n' ∉ m)
    (h : e <:+ init.flatten ++ (m ++ ['\n'])) : ∃ k, '\n' ∉ k ∧ m ++ ['\n'] = k ++ e := by
  rcases he with rfl | rfl
  · exact ⟨m, hm, rfl⟩
  · obtain ⟨k, hk⟩ := h
    have hr : k ++ ['\r'] = init.flatten ++ m := by
      have hk' : (k ++ ['\r']) ++ ['\n'] = (init.flatten ++ m) ++ ['\n'] := by simpa using hk
      exact List.append_inj_left' hk' rfl
    rcases List.eq_nil_or_concat m with rfl | ⟨m, c, rfl⟩
    · -- the carriage return would have to end the line before
      rcases List.eq_nil_or_concat init with rfl | ⟨init, j, rfl⟩
      · simp at hr
      · obtain ⟨n, -, rfl⟩ := hinit j (by simp)
        have hr' : k ++ ['\r'] = (init.flatten ++ n) ++ ['\n'] := by simpa using hr
        have hc := List.append_inj_right' hr' rfl
        simp at hc
    · have hr' : k ++ ['\r'] = (init.flatten ++ m) ++ [c] := by simpa using hr
      have hc := List.append_inj_right' hr' rfl
      obtain rfl : '\r' = c := (List.cons.inj hc).1
      exact ⟨m, by simp_all, by simp⟩

/-- Joining terminated lines takes nothing away, or it takes away the end of the last one. -/
theorem join_cases (text : List Char) {ls : List Line} (hls : ∀ l ∈ ls, l.Terminated) :
    (split text).join ls = ls.flatten ∨
      ∃ init rest, ls = init ++ [rest ++ (split text).added] ∧ '\n' ∉ rest ∧
        IsCompletion (split text).added ∧ (split text).join ls = init.flatten ++ rest := by
  by_cases hsuf : (split text).added <:+ ls.flatten
  · rcases added_cases text with ha | ha
    · exact Or.inl (join_of_append ls.flatten (by simp [ha]))
    · have hadd : (split text).added ≠ [] := by rcases ha with h | h <;> simp [h]
      rcases List.eq_nil_or_concat ls with rfl | ⟨init, l, rfl⟩
      · exact absurd (List.suffix_nil.mp hsuf) hadd
      · rw [List.concat_eq_append] at *
        have hinit : ∀ k ∈ init, k.Terminated := fun k hk => hls k (by simp [hk])
        obtain ⟨m, hm, rfl⟩ := hls l (by simp)
        obtain ⟨k, hnl, hk⟩ := completion_suffix ha hinit hm (by simpa using hsuf)
        rw [hk]
        exact Or.inr ⟨init, k, rfl, hnl, ha, join_of_append (init.flatten ++ k) (by simp)⟩
  · exact Or.inl (join_of_not_suffix hsuf)

/-- Joining terminated lines and cutting the text again gives them back up to their ends, provided
that the last one is more than what joining takes away. -/
theorem cut_join (text : List Char) {ls : List Line} (hls : ∀ l ∈ ls, l.Terminated)
    (hlast : (split text).added ≠ [] → ∀ l ∈ ls.getLast?, l ≠ (split text).added) :
    (Line.cut ((split text).join ls)).map Line.content = ls.map Line.content := by
  rcases join_cases text hls with hj | ⟨init, rest, rfl, hnl, ha, hj⟩
  · rw [hj, Line.cut_flatten hls]
  · have hadd : (split text).added ≠ [] := by rcases ha with h | h <;> simp [h]
    have hinit : ∀ k ∈ init, k.Terminated := fun k hk => hls k (by simp [hk])
    have hne : rest ≠ [] := by
      rintro rfl
      exact hlast hadd _ (by simp) (List.nil_append _)
    rw [hj, Line.cut_lines hinit, Line.cut_rest hnl, if_neg hne]
    simp [Line.content_append ha.isEol]

/-- Of lines that are joined and split again only the last one can change. -/
theorem split_join_take (text : List Char) {ls : List Line} (hls : ∀ l ∈ ls, l.Terminated) :
    (split ((split text).join ls)).lines.take (ls.length - 1) = ls.take (ls.length - 1) := by
  rcases join_cases text hls with hj | ⟨init, rest, rfl, -, -, hj⟩
  · rw [hj, split_flatten hls]
  · have hinit : ∀ k ∈ init, k.Terminated := fun k hk => hls k (by simp [hk])
    have hsplit : (split (init.flatten ++ rest)).lines =
        init ++ Line.cut (rest ++ missing (init.flatten ++ rest)) := by
      rw [split, List.append_assoc, Line.cut_lines hinit]
    rw [hj, hsplit]
    simp

/-- A text that is empty or ends in a newline consists of terminated lines. -/
theorem exists_terminated {text : List Char} (h : text = [] ∨ text.getLast? = some '\n') :
    ∃ ls : List Line, (∀ l ∈ ls, l.Terminated) ∧ text = ls.flatten := by
  obtain ⟨ls, rest, hls, hrest, rfl⟩ := Line.exists_lines text
  refine ⟨ls, hls, ?_⟩
  rcases List.eq_nil_or_concat rest with rfl | ⟨init, c, rfl⟩
  · rw [List.append_nil]
  · have hc : c = '\n' := by simpa using h
    simp [hc] at hrest

end Source

end GemOrder

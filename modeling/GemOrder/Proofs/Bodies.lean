import GemOrder.Proofs.Windows
import Mathlib

namespace GemOrder

variable {v : Vocabulary}

namespace Scope

/-- The parts of a scope are found in the text under the numbers that it gives. -/
theorem StandsIn.parts {ls : List Line} {s : Scope} (h : StandsIn v 0 ls s) :
    ∃ header body closer, ls[s.header]? = some header ∧ slice ls (s.header + 1) s.closer = body ∧
      ls[s.closer]? = some closer ∧ s.closer = body.length + (s.header + 1) ∧
      v.isCloser closer = true ∧ Body v header.indent (s.header + 1) body s.children := by
  obtain ⟨before, header, body, closer, behind, rfl, hh, hc, -, hcl, -, hbody⟩ := h
  rw [Nat.zero_add] at hh
  refine ⟨header, body, closer, by simp [hh], ?_, ?_, by omega, hcl, hbody⟩
  · have hmid := slice_middle (before ++ [header]) body (closer :: behind)
    simpa [hc, hh] using hmid
  · have hnum : s.closer = (before ++ header :: body).length := by
      simp only [List.length_append, List.length_cons]
      omega
    rw [hnum, ← List.cons_append, ← List.append_assoc]
    simp

end Scope

namespace Sorter

/-- The lines that are written in the place of a body are those of the body, sorted by itself. -/
theorem sortLines_body {ls : List Line} {s : Scope} (hs : s ∈ Scope.tree (Scope.locate v ls))
    (hd : ∀ header ∈ ls[s.header]?, ∀ l ∈ slice ls (s.header + 1) s.closer,
      v.isHeader l = true → header.indent < l.indent) :
    slice (sortLines v ls) (s.header + 1) s.closer =
      sortLines v (slice ls (s.header + 1) s.closer) := by
  obtain ⟨header, body, closer, hheader, hslice, hcloser, hlen, hcl, hbody⟩ :=
    (Scope.locate_standsIn v ls s hs).parts
  rw [hslice] at hd ⊢
  have hchildren : s.children = Scope.shift (s.header + 1) (Scope.locate v body) := by
    rw [← Scope.search_eq_shift, hbody.search (hd header hheader)]
  have hwritten : (span v ls (s.header + 1) s.closer s.children).flatMap Piece.render =
      sortLines v body := by
    rw [hchildren]
    apply span_part hslice hlen
    simp [Region.endsAt, hcloser, hcl]
  obtain ⟨before, behind, he, hnum⟩ := span_split (Scope.locate_fits v ls) (Nat.le_refl _) s hs
  have hall : sortLines v ls =
      before.flatMap Piece.render ++ sortLines v body ++ behind.flatMap Piece.render := by
    rw [← hwritten, sortLines, pieces, he, List.flatMap_append, List.flatMap_append]
  have hstart : (before.flatMap Piece.render).length = s.header + 1 := by
    rw [Piece.render_length, ← hnum, Nat.zero_add]
  have hstop : s.closer = s.header + 1 + (sortLines v body).length := by
    rw [(sortLines_perm v body).length_eq, hlen, Nat.add_comm]
  rw [hall, hstop, ← hstart]
  exact slice_middle _ _ _

end Sorter

/-- Where all headers in the body of a scope are indented deeper than its own, the sorted text holds in
the place of the body what sorting the body as a text of its own gives, whatever stands around the
scope and however deep it lies. -/
theorem sort_body (v : Vocabulary) (text : String) {s : Scope}
    (hs : s ∈ Scope.tree (Scope.locate v (Source.split text.toList).lines))
    (hd : ∀ header ∈ (Source.split text.toList).lines[s.header]?,
      ∀ l ∈ slice (Source.split text.toList).lines (s.header + 1) s.closer,
        v.isHeader l = true → header.indent < l.indent) :
    (slice (Source.split (v.sort text).toList).lines (s.header + 1) s.closer).flatten =
      (v.sort (String.ofList
        (slice (Source.split text.toList).lines (s.header + 1) s.closer).flatten)).toList := by
  have hlt := ((Scope.locate_fits v _).mem_tree s hs).2.2
  have hterm : ∀ l ∈ slice (Source.split text.toList).lines (s.header + 1) s.closer, l.Terminated := by
    intro l hl
    exact Source.split_terminated text.toList l (List.mem_of_mem_drop (List.mem_of_mem_take hl))
  rw [v.sort_toList, v.sort_toList, String.toList_ofList, Sorter.sortText_flatten hterm,
    Sorter.slice_sortText hlt, Sorter.sortLines_body hs hd]

set_option maxRecDepth 20000 in
/-- The body holds a scope of its own, and both it and the lines around that scope are sorted. -/
theorem sort_body_nested :
    (⟨0, 7, [⟨3, 6, []⟩]⟩ : Scope) ∈ Scope.tree (Scope.locate Vocabulary.standard (Source.split
        "group :t do\n gem 'b'\n gem 'a'\n group :u do\n  gem 'd'\n  gem 'c'\n end\nend\n".toList).lines) ∧
      (slice (Source.split (Vocabulary.standard.sort
        "group :t do\n gem 'b'\n gem 'a'\n group :u do\n  gem 'd'\n  gem 'c'\n end\nend\n").toList).lines
          1 7).flatten =
        (Vocabulary.standard.sort
          " gem 'b'\n gem 'a'\n group :u do\n  gem 'd'\n  gem 'c'\n end\n").toList := by
  have hloc : Scope.locate Vocabulary.standard (Source.split
      "group :t do\n gem 'b'\n gem 'a'\n group :u do\n  gem 'd'\n  gem 'c'\n end\nend\n".toList).lines =
      [⟨0, 7, [⟨3, 6, []⟩]⟩] := by cbv
  have hs : (⟨0, 7, [⟨3, 6, []⟩]⟩ : Scope) ∈ Scope.tree (Scope.locate Vocabulary.standard (Source.split
      "group :t do\n gem 'b'\n gem 'a'\n group :u do\n  gem 'd'\n  gem 'c'\n end\nend\n".toList).lines) := by
    rw [hloc]
    simp [Scope.tree]
  exact ⟨hs, sort_body Vocabulary.standard _ hs (by decide +kernel)⟩

end GemOrder

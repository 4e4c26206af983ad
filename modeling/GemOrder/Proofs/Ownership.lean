import GemOrder.Proofs.Rendering
import GemOrder.Proofs.SecondPass
import Mathlib

namespace GemOrder

variable {v : Vocabulary} {d : Nat}

/-- An entry with its declaration at indent `d` and no comment before it that is indented deeper. -/
structure Entry.Flush (v : Vocabulary) (d : Nat) (e : Entry) : Prop where
  formed : e.Formed v
  indent : e.indent = some d
  shallow : ∀ l ∈ e.formatting, v.isComment l = true → l.indent ≤ d

namespace Entry

/-- An entry is what is read from its own lines. -/
theorem Formed.new_eq {e : Entry} (h : e.Formed v) :
    new e.name (e.blanks ++ e.formatting) e.statement = e := by
  obtain ⟨htake, hdrop⟩ := Text.span_append h.blanks h.visible
  rw [new, htake, hdrop]

/-- The first line of an entry ends every statement that stands at its indent. -/
theorem Flush.stops (hv : v.Usable) {e : Entry} (h : e.Flush v d) {first : Line}
    (hfirst : first.indent = d) : ∀ l ∈ e.lines.head?, v.continues first l = false := by
  intro l hl
  rw [lines, List.append_assoc] at hl
  cases hb : e.blanks with
  | cons k blanks =>
    obtain rfl : k = l := by simpa [hb] using hl
    simp [Vocabulary.continues, h.formed.blanks k (by simp [hb])]
  | nil =>
    cases hf : e.formatting with
    | cons k formatting =>
      obtain rfl : k = l := by simpa [hb, hf] using hl
      have hvisible := h.formed.visible k (by simp [hf])
      have hkind := h.formed.formatting k (by simp [hf])
      rw [Vocabulary.isFormatting, hvisible, Bool.false_or] at hkind
      have hindent := h.shallow k (by simp [hf]) hkind
      simp [Vocabulary.continues, hkind, hfirst, hindent]
    | nil =>
      obtain ⟨second, tail, hs, hd, -⟩ := h.formed.statement
      obtain rfl : second = l := by simpa [hb, hf, hs] using hl
      have hindent : second.indent = d := by simpa [Entry.indent, hs] using h.indent
      exact Vocabulary.declaration_not_continues hv hd (by omega)

end Entry

namespace Region

variable {es : List Entry} {trailing left : List Line}

/-- Entries that stand flush are read from their lines in whatever order they stand, if the line behind
them continues none of them. -/
theorem scanned_flush (hv : v.Usable) (hes : ∀ e ∈ es, e.Flush v d)
    (ht : ∀ l ∈ trailing, v.isFormatting l = true)
    (hl : ∀ l ∈ left.head?, v.isFormatting l = false ∧ v.isDeclaration l = false)
    (hstop : ∀ first : Line, first.indent = d → ∀ l ∈ (trailing ++ left).head?,
      v.continues first l = false) :
    Scanned v (es.flatMap Entry.lines ++ (trailing ++ left)) es trailing left := by
  induction es with
  | nil => exact .stop trailing left ht hl
  | cons e es ih =>
    have he := hes e (by simp)
    obtain ⟨first, tail, hs, hd, htail, hname⟩ := he.formed.statement
    have hfirst : first.indent = d := by simpa [Entry.indent, hs] using he.indent
    have hformatting : ∀ l ∈ e.blanks ++ e.formatting, v.isFormatting l = true := by
      refine List.forall_mem_append.mpr ⟨fun l hl => ?_, he.formed.formatting⟩
      simp [Vocabulary.isFormatting, he.formed.blanks l hl]
    have hbehind : ∀ l ∈ (es.flatMap Entry.lines ++ (trailing ++ left)).head?,
        v.continues first l = false := by
      cases es with
      | nil => exact hstop first hfirst
      | cons f es =>
        have hf := hes f (by simp)
        have hne : f.lines ≠ [] := by simp [Entry.lines, hf.formed.statement_ne]
        rw [List.flatMap_cons, List.append_assoc, List.head?_append_of_ne_nil _ hne]
        exact hf.stops hv hfirst
    have hentry := Scanned.entry (e.blanks ++ e.formatting) first tail _ hformatting hd htail hbehind
      (ih fun f hf => hes f (by simp [hf]))
    rw [← hname, ← hs, he.formed.new_eq] at hentry
    have hlines : (e :: es).flatMap Entry.lines ++ (trailing ++ left) = e.blanks ++ e.formatting ++
        first :: (tail ++ (es.flatMap Entry.lines ++ (trailing ++ left))) := by
      simp [Entry.lines, hs]
    rwa [hlines]

end Region

end GemOrder

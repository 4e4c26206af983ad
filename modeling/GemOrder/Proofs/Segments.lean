import GemOrder.Proofs.Classes

namespace GemOrder

variable {v : Vocabulary}

/-- An entry the way it is read: blank lines, formatting that opens with a comment, and a
declaration with the lines that continue it. -/
structure Entry.Formed (v : Vocabulary) (e : Entry) : Prop where
  blanks : ∀ l ∈ e.blanks, l.isBlank = true
  formatting : ∀ l ∈ e.formatting, v.isFormatting l = true
  visible : ∀ l ∈ e.formatting.head?, l.isBlank = false
  statement : ∃ first tail, e.statement = first :: tail ∧ v.isDeclaration first = true ∧
    (∀ l ∈ tail, v.continues first l = true) ∧ e.name = v.declaredName? first

namespace Entry

@[simp] theorem new_lines (name : Option (List Char)) (formatting statement : List Line) :
    (new name formatting statement).lines = formatting ++ statement := by
  simp [new, lines, List.takeWhile_append_dropWhile]

theorem new_formed {formatting tail : List Line} {first : Line}
    (hf : ∀ l ∈ formatting, v.isFormatting l = true) (hd : v.isDeclaration first = true)
    (ht : ∀ l ∈ tail, v.continues first l = true) :
    (new (v.declaredName? first) formatting (first :: tail)).Formed v where
  blanks := fun _ hl => List.mem_takeWhile_imp hl
  formatting := fun l hl => hf l ((List.dropWhile_suffix _).subset hl)
  visible := Text.head?_dropWhile Line.isBlank formatting
  statement := ⟨first, tail, rfl, hd, ht, rfl⟩

end Entry

namespace Region

/-- Entries read off the front of some lines, with the formatting behind the last one and the lines
that are left. -/
inductive Scanned (v : Vocabulary) : List Line → List Entry → List Line → List Line → Prop where
  | stop (formatting left : List Line) (hf : ∀ l ∈ formatting, v.isFormatting l = true)
      (hl : ∀ l ∈ left.head?, v.isFormatting l = false ∧ v.isDeclaration l = false) :
      Scanned v (formatting ++ left) [] formatting left
  | entry (formatting : List Line) (first : Line) (tail rest : List Line)
      {es : List Entry} {trailing left : List Line}
      (hf : ∀ l ∈ formatting, v.isFormatting l = true) (hd : v.isDeclaration first = true)
      (ht : ∀ l ∈ tail, v.continues first l = true)
      (hr : ∀ l ∈ rest.head?, v.continues first l = false)
      (h : Scanned v rest es trailing left) :
      Scanned v (formatting ++ first :: (tail ++ rest))
        (Entry.new (v.declaredName? first) formatting (first :: tail) :: es) trailing left

theorem scan_scanned (v : Vocabulary) (ls : List Line) :
    Scanned v ls (scan v ls).1 (scan v ls).2.1 (scan v ls).2.2 := by
  fun_induction scan v ls with
  | case1 ls formatting h =>
    have hls : ls = formatting ++ [] := by rw [← h, List.takeWhile_append_dropWhile]
    rw [hls]
    exact .stop formatting [] (fun _ hl => List.mem_takeWhile_imp hl) (by simp)
  | case2 ls formatting first rest h hd entries trailing left hs ih =>
    have hls : ls = formatting ++ first :: (rest.takeWhile (v.continues first) ++
        rest.dropWhile (v.continues first)) := by
      rw [List.takeWhile_append_dropWhile, ← h, List.takeWhile_append_dropWhile]
    rw [hs] at ih
    rw [hls]
    exact .entry formatting first _ _ (fun _ hl => List.mem_takeWhile_imp hl) hd
      (fun _ hl => List.mem_takeWhile_imp hl) (Text.head?_dropWhile _ _) ih
  | case3 ls formatting first rest h hd =>
    have hls : ls = formatting ++ first :: rest := by rw [← h, List.takeWhile_append_dropWhile]
    have hf := Text.head?_dropWhile v.isFormatting ls
    rw [h] at hf
    rw [hls]
    refine .stop formatting (first :: rest) (fun _ hl => List.mem_takeWhile_imp hl) ?_
    intro l hl
    obtain rfl : first = l := by simpa using hl
    exact ⟨hf first (by simp), Bool.eq_false_iff.mpr hd⟩

theorem scan_stop {formatting left : List Line} (hf : ∀ l ∈ formatting, v.isFormatting l = true)
    (hl : ∀ l ∈ left.head?, v.isFormatting l = false ∧ v.isDeclaration l = false) :
    scan v (formatting ++ left) = ([], formatting, left) := by
  obtain ⟨ht, hd⟩ := Text.span_append hf fun l h => (hl l h).1
  rw [scan, ht]
  split
  · rename_i h
    rw [hd] at h
    rw [h]
  · rename_i first rest h
    rw [hd] at h
    subst h
    simp [(hl first (by simp)).2]

theorem scan_entry {formatting tail rest : List Line} {first : Line}
    (hf : ∀ l ∈ formatting, v.isFormatting l = true) (hd : v.isDeclaration first = true)
    (ht : ∀ l ∈ tail, v.continues first l = true)
    (hr : ∀ l ∈ rest.head?, v.continues first l = false) :
    scan v (formatting ++ first :: (tail ++ rest)) =
      (Entry.new (v.declaredName? first) formatting (first :: tail) :: (scan v rest).1,
        (scan v rest).2.1, (scan v rest).2.2) := by
  have hhead : ∀ l ∈ (first :: (tail ++ rest)).head?, v.isFormatting l = false := by
    simpa using Vocabulary.isDeclaration_not_formatting hd
  obtain ⟨hft, hfd⟩ := Text.span_append hf hhead
  obtain ⟨htt, htd⟩ := Text.span_append ht hr
  rw [scan, hft]
  split
  · rename_i h
    rw [hfd] at h
    contradiction
  · rename_i g rest' h
    rw [hfd] at h
    cases h
    simp [hd, htt, htd]

variable {ls trailing left : List Line} {es : List Entry}

/-- Lines are taken apart in one way only. -/
theorem Scanned.scan_eq (h : Scanned v ls es trailing left) : scan v ls = (es, trailing, left) := by
  induction h with
  | stop formatting left hf hl => exact scan_stop hf hl
  | entry formatting first tail rest hf hd ht hr h ih => rw [scan_entry hf hd ht hr, ih]

theorem Scanned.lines (h : Scanned v ls es trailing left) :
    ls = es.flatMap Entry.lines ++ trailing ++ left := by
  induction h with
  | stop formatting left => simp
  | entry formatting first tail rest hf hd ht hr h ih =>
    rw [List.flatMap_cons, Entry.new_lines, ih]
    simp

theorem Scanned.formed (h : Scanned v ls es trailing left) : ∀ e ∈ es, e.Formed v := by
  induction h with
  | stop formatting left => simp
  | entry formatting first tail rest hf hd ht hr h ih =>
    intro e he
    rcases List.mem_cons.mp he with rfl | he
    · exact Entry.new_formed hf hd ht
    · exact ih e he

theorem Scanned.trailing_formatting (h : Scanned v ls es trailing left) :
    ∀ l ∈ trailing, v.isFormatting l = true := by
  induction h with
  | stop formatting left hf => exact hf
  | entry formatting first tail rest hf hd ht hr h ih => exact ih

/-- Reading stops at a line that is no formatting and no declaration. -/
theorem Scanned.left_head (h : Scanned v ls es trailing left) :
    ∀ l ∈ left.head?, v.isFormatting l = false ∧ v.isDeclaration l = false := by
  induction h with
  | stop formatting left hf hl => exact hl
  | entry formatting first tail rest hf hd ht hr h ih => exact ih

end Region

end GemOrder

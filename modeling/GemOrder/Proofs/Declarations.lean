import GemOrder.Proofs.Classes

namespace GemOrder

open Text

/-- What divides a keyword from a name: blanks, or a bracket with blanks around it. -/
inductive Divider : List Char → Prop where
  | blanks (sep : List Char) (nonempty : sep ≠ []) (blank : ∀ c ∈ sep, isBlank c = true) : Divider sep
  | bracket (before behind : List Char) (blank_before : ∀ c ∈ before, isBlank c = true)
      (blank_behind : ∀ c ∈ behind, isBlank c = true) : Divider (before ++ '(' :: behind)

/-- The parts of a declaration behind its keyword. The quotes need not be of one kind. -/
@[ext]
structure Declaration where
  divider : List Char
  opening : Char
  name : List Char
  closing : Char
  rest : List Char
  divides : Divider divider
  /-- The end of a line divides nothing. -/
  inside_line : ∀ c ∈ divider.head?, c ≠ '\n' ∧ c ≠ '\r'
  opening_quote : opening = '"' ∨ opening = '\x27'
  closing_quote : closing = '"' ∨ closing = '\x27'
  name_nonempty : name ≠ []
  name_bare : '"' ∉ name ∧ '\x27' ∉ name

/-- A declaration as it is written. -/
def Declaration.write (keyword : List Char) (d : Declaration) : List Char :=
  keyword ++ d.divider ++ d.opening :: d.name ++ d.closing :: d.rest

namespace Vocabulary

theorem isQuote_iff {c : Char} : isQuote c = true ↔ c = '"' ∨ c = '\x27' := by
  simp [isQuote]

/-- A text without either quote holds no quote. -/
theorem isQuote_of_bare {cs : List Char} (h : '"' ∉ cs ∧ '\x27' ∉ cs) : ∀ c ∈ cs, isQuote c = false := by
  intro c hc
  apply Bool.eq_false_iff.mpr
  intro hq
  rcases isQuote_iff.mp hq with rfl | rfl
  · exact h.1 hc
  · exact h.2 hc

theorem isBlank_of_isQuote {c : Char} (h : isQuote c = true) : isBlank c = false := by
  rcases isQuote_iff.mp h with rfl | rfl <;> decide

/-- A text is divided at its first quote. -/
theorem span_quote {cs : List Char} {q : Char} (hcs : '"' ∉ cs ∧ '\x27' ∉ cs) (hq : q = '"' ∨ q = '\x27')
    (rest : List Char) : (cs ++ q :: rest).takeWhile (!isQuote ·) = cs ∧
      (cs ++ q :: rest).dropWhile (!isQuote ·) = q :: rest := by
  apply span_append
  · simpa using isQuote_of_bare hcs
  · simpa using isQuote_iff.mpr hq

theorem quoted?_eq_some_iff {cs name : List Char} :
    quoted? cs = some name ↔ ∃ q q' rest, cs = q :: name ++ q' :: rest ∧ (q = '"' ∨ q = '\x27') ∧
      (q' = '"' ∨ q' = '\x27') ∧ name ≠ [] ∧ '"' ∉ name ∧ '\x27' ∉ name := by
  constructor
  · intro h
    cases cs with
    | nil => contradiction
    | cons q cs =>
      simp only [quoted?, Option.ite_none_right_eq_some, Option.some.injEq, Bool.and_eq_true,
        Bool.not_eq_true', List.isEmpty_eq_false_iff] at h
      obtain ⟨⟨⟨hq, hname⟩, hrest⟩, rfl⟩ := h
      obtain ⟨q', rest, hback⟩ := List.exists_cons_of_ne_nil hrest
      have hq' : isQuote q' = true := by
        simpa [hback] using head?_dropWhile (!isQuote ·) cs
      have hbare : ∀ c, isQuote c = true → c ∉ cs.takeWhile (!isQuote ·) := by
        intro c hc hmem
        have hno := List.mem_takeWhile_imp hmem
        simp [hc] at hno
      refine ⟨q, q', rest, ?_, isQuote_iff.mp hq, isQuote_iff.mp hq', hname, hbare _ rfl, hbare _ rfl⟩
      rw [List.cons_append, ← hback, List.takeWhile_append_dropWhile]
  · rintro ⟨q, q', rest, rfl, hq, hq', hname, hbare⟩
    simp [quoted?, span_quote hbare hq' rest, isQuote_iff.mpr hq, hname]

/-- Before a name that is read there stands a divider. -/
theorem exists_divider {cs name : List Char} (h : argument? cs = some name) :
    ∃ sep rest, cs = sep ++ rest ∧ Divider sep ∧ quoted? rest = some name := by
  have hsplit (xs : List Char) : xs = xs.takeWhile isBlank ++ xs.dropWhile isBlank :=
    List.takeWhile_append_dropWhile.symm
  have hblank (xs : List Char) : ∀ c ∈ xs.takeWhile isBlank, isBlank c = true :=
    fun c hc => List.mem_takeWhile_imp hc
  unfold argument? at h
  split at h
  · rename_i rest hrest
    refine ⟨_, _, ?_, .bracket (cs.takeWhile isBlank) (rest.takeWhile isBlank) (hblank cs)
      (hblank rest), h⟩
    rw [List.append_assoc, List.cons_append, ← hsplit rest, ← hrest, ← hsplit cs]
  · simp only [Option.ite_none_right_eq_some] at h
    obtain ⟨hhead, hname⟩ := h
    refine ⟨_, _, hsplit cs, .blanks _ ?_ (hblank cs), hname⟩
    cases cs with
    | nil => simp at hhead
    | cons c cs => simpa using hhead

/-- A name behind a divider is read. -/
theorem argument?_of_divider {sep rest name : List Char} (hsep : Divider sep)
    (hname : quoted? rest = some name) : argument? (sep ++ rest) = some name := by
  obtain ⟨q, q', back, hrest, hq, -⟩ := quoted?_eq_some_iff.mp hname
  have hhead : ∀ c ∈ rest.head?, isBlank c = false := by
    simpa [hrest] using isBlank_of_isQuote (isQuote_iff.mpr hq)
  cases hsep with
  | blanks _ hne hb =>
    have hopen : q ≠ '(' := by rcases hq with rfl | rfl <;> decide
    obtain ⟨c, cs, rfl⟩ := List.exists_cons_of_ne_nil hne
    rw [argument?, (span_append hb hhead).2]
    simpa [hrest, hopen, hb c] using hname
  | bracket before behind hbefore hbehind =>
    have hbracket : ∀ c ∈ ('(' :: (behind ++ rest)).head?, isBlank c = false := by simp [isBlank]
    rw [List.append_assoc, List.cons_append, argument?, (span_append hbefore hbracket).2]
    change quoted? ((behind ++ rest).dropWhile isBlank) = some name
    rw [(span_append hbehind hhead).2]
    exact hname

end Vocabulary

/-- A divider is not empty, and what it opens with can follow a keyword. -/
theorem Divider.exists_head {sep : List Char} (h : Divider sep) :
    ∃ c cs, sep = c :: cs ∧ (isBlank c = true ∨ c = '(') := by
  cases h with
  | blanks _ hne hb =>
    obtain ⟨c, cs, rfl⟩ := List.exists_cons_of_ne_nil hne
    exact ⟨c, cs, rfl, Or.inl (hb c (by simp))⟩
  | bracket before behind hbefore _ =>
    cases before with
    | nil => exact ⟨'(', behind, rfl, Or.inr rfl⟩
    | cons c cs => exact ⟨c, cs ++ '(' :: behind, rfl, Or.inl (hbefore c (by simp))⟩

/-- No quote stands in a divider. -/
theorem Divider.bare {sep : List Char} (h : Divider sep) : '"' ∉ sep ∧ '\x27' ∉ sep := by
  have hbare : ∀ {xs : List Char}, (∀ c ∈ xs, isBlank c = true) → '"' ∉ xs ∧ '\x27' ∉ xs :=
    fun hxs => ⟨fun hc => absurd (hxs _ hc) (by decide), fun hc => absurd (hxs _ hc) (by decide)⟩
  cases h with
  | blanks _ _ hb => exact hbare hb
  | bracket before behind hbefore hbehind =>
    have h₁ := hbare hbefore
    have h₂ := hbare hbehind
    simp [h₁, h₂]

namespace Vocabulary

/-- A keyword with a divider behind it opens a line, unless the divider is the end of the line. -/
theorem opensWith_divider {keyword sep rest : List Char} {l : Line}
    (hl : trimStart l = keyword ++ (sep ++ rest)) (hsep : Divider sep) :
    opensWith keyword l = true ↔ ∀ c ∈ sep.head?, c ≠ '\n' ∧ c ≠ '\r' := by
  obtain ⟨c, cs, rfl, hc⟩ := hsep.exists_head
  rw [opensWith, after?_eq_some_iff.mpr hl]
  rcases hc with hb | rfl
  · have hopen : c ≠ '(' := by
      rintro rfl
      exact absurd hb (by decide)
    simp [hb, hopen]
  · simp

/-- Names are read from declarations as they are written. -/
theorem declaredName?_eq_some_iff {v : Vocabulary} {l : Line} {name : List Char} :
    v.declaredName? l = some name ↔ v.isComment l = false ∧
      ∃ d : Declaration, trimStart l = d.write v.declaration ∧ d.name = name := by
  simp only [declaredName?, isDeclaration, Option.ite_none_right_eq_some, Bool.and_eq_true,
    Bool.not_eq_true', Option.bind_eq_some_iff, after?_eq_some_iff]
  constructor
  · rintro ⟨⟨hcomment, hopens⟩, cs, hl, hread⟩
    obtain ⟨sep, behind, rfl, hsep, hquoted⟩ := exists_divider hread
    obtain ⟨q, q', rest, rfl, hq, hq', hname, hbare⟩ := quoted?_eq_some_iff.mp hquoted
    have hinside := (opensWith_divider hl hsep).mp hopens
    refine ⟨hcomment, ⟨sep, q, name, q', rest, hsep, hinside, hq, hq', hname, hbare⟩, ?_, rfl⟩
    simpa [Declaration.write] using hl
  · rintro ⟨hcomment, d, hl, rfl⟩
    have hl' : trimStart l =
        v.declaration ++ (d.divider ++ (d.opening :: d.name ++ d.closing :: d.rest)) := by
      simpa [Declaration.write] using hl
    have hopens := (opensWith_divider hl' d.divides).mpr d.inside_line
    have hquoted : quoted? (d.opening :: d.name ++ d.closing :: d.rest) = some d.name :=
      quoted?_eq_some_iff.mpr ⟨_, _, _, rfl, d.opening_quote, d.closing_quote, d.name_nonempty, d.name_bare⟩
    exact ⟨⟨hcomment, hopens⟩, _, hl', argument?_of_divider d.divides hquoted⟩

/-- What stands before the first quote, the quote and what stands behind it are settled by the text. -/
theorem quote_inj {cs cs' rest rest' : List Char} {q q' : Char} (hcs : '"' ∉ cs ∧ '\x27' ∉ cs)
    (hcs' : '"' ∉ cs' ∧ '\x27' ∉ cs') (hq : q = '"' ∨ q = '\x27') (hq' : q' = '"' ∨ q' = '\x27')
    (h : cs ++ q :: rest = cs' ++ q' :: rest') : cs = cs' ∧ q = q' ∧ rest = rest' := by
  have hspan := span_quote hcs hq rest
  have hspan' := span_quote hcs' hq' rest'
  rw [h] at hspan
  have hback := hspan.2.symm.trans hspan'.2
  exact ⟨hspan.1.symm.trans hspan'.1, List.cons.inj hback⟩

end Vocabulary

/-- A text is a declaration in one way at most. -/
theorem Declaration.write_injective (keyword : List Char) : Function.Injective (write keyword) := by
  intro d d' h
  have hbehind : d.divider ++ d.opening :: (d.name ++ d.closing :: d.rest) =
      d'.divider ++ d'.opening :: (d'.name ++ d'.closing :: d'.rest) := by
    simpa [write] using h
  -- the first quote ends the divider, and the next one the name
  obtain ⟨hdivider, hopening, hquoted⟩ := Vocabulary.quote_inj d.divides.bare d'.divides.bare
    d.opening_quote d'.opening_quote hbehind
  obtain ⟨hname, hclosing, hrest⟩ := Vocabulary.quote_inj d.name_bare d'.name_bare
    d.closing_quote d'.closing_quote hquoted
  exact Declaration.ext hdivider hopening hname hclosing hrest

/-- Under any configuration, a name is read from a line exactly if the line is no comment and, after
the blanks at its front, a declaration of that name. There is one such declaration at most. -/
theorem declaredName_reads_grammar (c : Config) (l : Line) :
    (∀ name, (Vocabulary.ofConfig c).declaredName? l = some name ↔
      (Vocabulary.ofConfig c).isComment l = false ∧
        ∃ d : Declaration, trimStart l = d.write c.declarationKeyword.toList ∧ d.name = name) ∧
    ∀ d d' : Declaration, trimStart l = d.write c.declarationKeyword.toList →
      trimStart l = d'.write c.declarationKeyword.toList → d = d' := by
  refine ⟨fun name => Vocabulary.declaredName?_eq_some_iff, ?_⟩
  intro d d' h h'
  exact Declaration.write_injective _ (h.symm.trans h')

/-- A keyword that ends in a quote, a bracket with blanks of other kinds around it, and two kinds of
quotes. -/
theorem declaredName_reads_grammar_bracket :
    ∃ d : Declaration, d.name = ['a'] ∧
      trimStart "\tgem'\u00a0(\n'a\", 'b'\n".toList = d.write "gem'".toList ∧
      ∀ d' : Declaration, trimStart "\tgem'\u00a0(\n'a\", 'b'\n".toList = d'.write "gem'".toList →
        d' = d := by
  have hread := declaredName_reads_grammar { declarationKeyword := "gem'" }
    "\tgem'\u00a0(\n'a\", 'b'\n".toList
  obtain ⟨-, d, hl, hname⟩ := (hread.1 ['a']).mp (by decide)
  exact ⟨d, hname, hl, fun d' hl' => hread.2 d' d hl' hl⟩

end GemOrder

import GemOrder.Proofs.Lines
import GemOrder.Sorter

namespace GemOrder

namespace Text

/-- What stops a search does not have the property searched along. -/
theorem head?_dropWhile {α : Type} (p : α → Bool) (l : List α) :
    ∀ a ∈ (l.dropWhile p).head?, p a = false := by
  intro a ha
  have h := List.head?_dropWhile_not p l
  rw [show (l.dropWhile p).head? = some a from ha] at h
  simpa using h

/-- A search along `l` stops at what follows. -/
theorem span_append {α : Type} {p : α → Bool} {l rest : List α} (hl : ∀ a ∈ l, p a = true)
    (hr : ∀ a ∈ rest.head?, p a = false) :
    (l ++ rest).takeWhile p = l ∧ (l ++ rest).dropWhile p = rest := by
  rw [List.takeWhile_append_of_pos hl, List.dropWhile_append_of_pos hl]
  cases rest with
  | nil => simp
  | cons a rest => simp [hr a (by simp)]

theorem isBlank_of_isEol {c : Char} (h : Line.isEol c = true) : isBlank c = true := by
  simp only [Line.isEol, Bool.or_eq_true, beq_iff_eq] at h
  rcases h with rfl | rfl <;> decide

theorem trimStart_append {l e : List Char} (he : ∀ c ∈ e, Line.isEol c = true) :
    trimStart (l ++ e) = if (trimStart l).isEmpty then [] else trimStart l ++ e := by
  have hb : e.dropWhile isBlank = [] :=
    List.dropWhile_eq_nil_iff.mpr fun c hc => isBlank_of_isEol (he c hc)
  rw [trimStart, trimStart, List.dropWhile_append, hb]

theorem after?_eq_some_iff {word cs rest : List Char} :
    after? word cs = some rest ↔ cs = word ++ rest := by
  induction word generalizing cs with
  | nil => simp [after?, eq_comm]
  | cons w ws ih =>
    cases cs with
    | nil => simp [after?]
    | cons c cs =>
      by_cases h : w = c
      · simp [after?, h, ih]
      · simp [after?, h, Ne.symm h]

/-- A word of a vocabulary is not empty and holds no white space. -/
structure IsWord (w : List Char) : Prop where
  nonempty : w ≠ []
  solid : ∀ c ∈ w, isBlank c = false

theorem after?_append {word l e : List Char} (hw : ∀ c ∈ word, isBlank c = false)
    (he : ∀ c ∈ e, Line.isEol c = true) :
    after? word (l ++ e) = (after? word l).map (· ++ e) := by
  induction word generalizing l with
  | nil => rfl
  | cons w ws ih =>
    cases l with
    | nil =>
      cases e with
      | nil => rfl
      | cons c e =>
        have hc := isBlank_of_isEol (he c (by simp))
        have hne : (w == c) = false := by
          apply beq_eq_false_iff_ne.mpr
          rintro rfl
          simp [hw w (by simp)] at hc
        simp [after?, hne]
    | cons c l =>
      have ih' := ih (fun d hd => hw d (by simp [hd])) (l := l)
      by_cases h : w = c <;> simp [after?, h, ih']

/-- A word at the front of a line is found there whatever the line ends in. -/
theorem after?_trimStart_append {word l e : List Char} (hw : IsWord word)
    (he : ∀ c ∈ e, Line.isEol c = true) :
    after? word (trimStart (l ++ e)) = (after? word (trimStart l)).map (· ++ e) := by
  rw [trimStart_append he]
  split
  · rename_i h
    obtain ⟨w, ws, rfl⟩ := List.exists_cons_of_ne_nil hw.nonempty
    simp [List.isEmpty_iff.mp h, after?]
  · exact after?_append hw.solid he

/-- No blank character is part of a word. -/
theorem isWord_of_isBlank {c : Char} (h : isBlank c = true) : isWord c = false := by
  have hall : ∀ n ∈ List.range' 0x9 5 ++ [0x20, 0x85, 0xA0, 0x1680] ++ List.range' 0x2000 11 ++
      [0x2028, 0x2029, 0x202F, 0x205F, 0x3000], isWord (Char.ofNat n) = false := by decide +kernel
  have hword := hall c.toNat (by
    simp only [isBlank, Bool.or_eq_true, Bool.and_eq_true, decide_eq_true_eq, beq_iff_eq] at h
    simp only [List.mem_append, List.mem_range'_1, List.mem_cons, List.not_mem_nil, or_false]
    omega)
  rwa [Char.ofNat_toNat] at hword

end Text

namespace Vocabulary

open Text

theorem isQuote_of_isEol {c : Char} (h : Line.isEol c = true) : isQuote c = false := by
  simp only [Line.isEol, Bool.or_eq_true, beq_iff_eq] at h
  rcases h with rfl | rfl <;> decide

theorem opensWith_append {word l e : List Char} (hw : IsWord word)
    (he : ∀ c ∈ e, Line.isEol c = true) : opensWith word (l ++ e) = opensWith word l := by
  unfold opensWith
  rw [after?_trimStart_append hw he]
  cases after? word (trimStart l) with
  | none => rfl
  | some rest =>
    cases rest with
    | cons c rest => rfl
    | nil =>
      cases e with
      | nil => rfl
      | cons c e =>
        have hc := he c (by simp)
        simp only [Line.isEol, Bool.or_eq_true, beq_iff_eq] at hc
        rcases hc with rfl | rfl <;> simp

theorem startsWithWord_append {word l e : List Char} (hw : IsWord word)
    (he : ∀ c ∈ e, Line.isEol c = true) : startsWithWord word (l ++ e) = startsWithWord word l := by
  unfold startsWithWord
  rw [after?_trimStart_append hw he]
  cases after? word (trimStart l) with
  | none => rfl
  | some rest =>
    cases rest with
    | cons c rest => rfl
    | nil =>
      cases e with
      | nil => rfl
      | cons c e => simp [isWord_of_isBlank (isBlank_of_isEol (he c (by simp)))]

theorem quoted?_append (cs : List Char) {e : List Char} (he : ∀ c ∈ e, Line.isEol c = true) :
    quoted? (cs ++ e) = quoted? cs := by
  have hq : ∀ c ∈ e, (!isQuote c) = true := fun c hc => by simp [isQuote_of_isEol (he c hc)]
  cases cs with
  | nil =>
    cases e with
    | nil => rfl
    | cons c e => simp [quoted?, isQuote_of_isEol (he c (by simp))]
  | cons q cs =>
    have hd : e.dropWhile (!isQuote ·) = [] := List.dropWhile_eq_nil_iff.mpr hq
    have hlen := congrArg List.length
      (List.takeWhile_append_dropWhile (p := (!isQuote ·)) (l := cs))
    rw [List.length_append] at hlen
    simp only [quoted?, List.cons_append, List.dropWhile_append, List.takeWhile_append, hd]
    -- without a second quote there is no name, with one the name ends there
    by_cases h : cs.dropWhile (!isQuote ·) = []
    · simp [h]
    · have hpos := List.length_pos_iff.mpr h
      have hshort : (cs.takeWhile (!isQuote ·)).length ≠ cs.length := by omega
      simp [h, hshort]

theorem argument?_append {cs e : List Char} (he : ∀ c ∈ e, Line.isEol c = true) :
    argument? (cs ++ e) = argument? cs := by
  have hb : ∀ l : List Char, (l ++ e).dropWhile isBlank =
      if (l.dropWhile isBlank).isEmpty then [] else l.dropWhile isBlank ++ e :=
    fun l => trimStart_append he
  unfold argument?
  rw [hb]
  cases hcs : cs.dropWhile isBlank with
  | nil => simp [quoted?]
  | cons c rest =>
    have hhead : (cs ++ e).head? = cs.head? := by
      cases cs with
      | nil => simp at hcs
      | cons d cs => rfl
    simp only [List.isEmpty_cons, Bool.false_eq_true, ↓reduceIte, List.cons_append]
    by_cases hc : c = '('
    · subst c
      simp only [hb]
      cases hrest : rest.dropWhile isBlank with
      | nil => simp
      | cons d rest => exact quoted?_append _ he
    · have hq := quoted?_append (c :: rest) he
      rw [List.cons_append] at hq
      simp [hc, hhead, hq]

/-- The words of a vocabulary hold no white space, declarations start a statement, and the mark of
comments is not blank at its end. -/
structure Usable (v : Vocabulary) : Prop where
  declaration : IsWord v.declaration
  scope : IsWord v.scope
  closer : IsWord v.closer
  starters : ∀ w ∈ v.starters, IsWord w
  declaration_mem : v.declaration ∈ v.starters
  comment_ne : v.comment ≠ []
  comment_end : ∀ c ∈ v.comment.getLast?, isBlank c = false

variable {v : Vocabulary}

theorem isComment_append (hv : v.Usable) {l e : Line} (he : ∀ c ∈ e, Line.isEol c = true) :
    v.isComment (l ++ e) = v.isComment l := by
  unfold isComment
  rw [trimStart_append he]
  split
  · rename_i h
    rw [List.isEmpty_iff.mp h]
  · apply Bool.eq_iff_iff.mpr
    rw [List.isPrefixOf_iff_prefix, List.isPrefixOf_iff_prefix]
    refine ⟨fun h => ?_, fun h => h.trans (List.prefix_append _ _)⟩
    -- a mark that reached into the end of the line would be blank at its own end
    rcases List.prefix_or_prefix_of_prefix h (List.prefix_append _ e) with hp | ⟨k, hk⟩
    · exact hp
    · rw [← hk, List.prefix_append_right_inj] at h
      rcases List.eq_nil_or_concat k with rfl | ⟨k, c, rfl⟩
      · exact ⟨[], by simpa using hk.symm⟩
      · have hc := isBlank_of_isEol (he c (h.subset (by simp)))
        simp [hv.comment_end c (by simp [← hk])] at hc

theorem isDeclaration_append (hv : v.Usable) {l e : Line} (he : ∀ c ∈ e, Line.isEol c = true) :
    v.isDeclaration (l ++ e) = v.isDeclaration l := by
  rw [isDeclaration, isDeclaration, isComment_append hv he, opensWith_append hv.declaration he]

theorem isStarter_append (hv : v.Usable) {l e : Line} (he : ∀ c ∈ e, Line.isEol c = true) :
    v.isStarter (l ++ e) = v.isStarter l := by
  apply Bool.eq_iff_iff.mpr
  rw [isStarter, isStarter, List.any_eq_true, List.any_eq_true]
  constructor
  · rintro ⟨w, hw, hl⟩
    exact ⟨w, hw, by rwa [startsWithWord_append (hv.starters w hw) he] at hl⟩
  · rintro ⟨w, hw, hl⟩
    exact ⟨w, hw, by rwa [startsWithWord_append (hv.starters w hw) he]⟩

theorem declaredName?_append (hv : v.Usable) {l e : Line} (he : ∀ c ∈ e, Line.isEol c = true) :
    v.declaredName? (l ++ e) = v.declaredName? l := by
  rw [declaredName?, declaredName?, isDeclaration_append hv he,
    after?_trimStart_append hv.declaration he, Option.bind_map]
  have harg : argument? ∘ (· ++ e) = argument? := funext fun cs => argument?_append he
  rw [harg]

theorem indent_append {l e : Line} (he : ∀ c ∈ e, Line.isEol c = true) :
    (l ++ e).indent = l.indent := by
  have ht : e.takeWhile (fun c => c == ' ' || c == '\t') = [] := by
    cases e with
    | nil => rfl
    | cons c e =>
      have hc := he c (by simp)
      simp only [Line.isEol, Bool.or_eq_true, beq_iff_eq] at hc
      rcases hc with rfl | rfl <;> rfl
  rw [Line.indent, Line.indent, List.takeWhile_append, ht, List.append_nil]
  split <;> simp_all

theorem trimStart_of_isBlank {l : Line} (h : l.isBlank = true) : trimStart l = [] :=
  List.dropWhile_eq_nil_iff.mpr (List.all_eq_true.mp h)

theorem opensWith_not_blank {word : List Char} {l : Line} (h : opensWith word l = true) :
    l.isBlank = false := by
  apply Bool.eq_false_iff.mpr
  intro hb
  rw [opensWith, trimStart_of_isBlank hb] at h
  cases word <;> simp [after?] at h

theorem isDeclaration_not_blank {l : Line} (h : v.isDeclaration l = true) : l.isBlank = false := by
  simp only [isDeclaration, Bool.and_eq_true] at h
  exact opensWith_not_blank h.2

theorem isDeclaration_not_formatting {l : Line} (h : v.isDeclaration l = true) :
    v.isFormatting l = false := by
  rw [isFormatting, isDeclaration_not_blank h, Bool.false_or]
  simp only [isDeclaration, Bool.and_eq_true, Bool.not_eq_true'] at h
  exact h.1

theorem isDeclaration_isStarter (hv : v.Usable) {l : Line} (h : v.isDeclaration l = true) :
    v.isStarter l = true := by
  simp only [isDeclaration, Bool.and_eq_true] at h
  have hopen := h.2
  refine List.any_eq_true.mpr ⟨v.declaration, hv.declaration_mem, ?_⟩
  unfold opensWith at hopen
  split at hopen
  · rename_i c rest hc
    have hw : isWord c = false := by
      simp only [Bool.or_eq_true, Bool.and_eq_true, beq_iff_eq] at hopen
      rcases hopen with ⟨⟨hb, -⟩, -⟩ | rfl
      · exact isWord_of_isBlank hb
      · decide
    simp [startsWithWord, hc, hw]
  · contradiction

/-- A line that can stand in the statement that `first` opens. -/
structure Follows (v : Vocabulary) (first l : Line) : Prop where
  visible : l.isBlank = false
  not_header : v.isHeader l = false
  not_closer : v.isCloser l = false
  inner : first.indent < l.indent ∨ v.isComment l = false ∧ v.isStarter l = false

theorem continues_iff_follows {first l : Line} :
    v.continues first l = true ↔ v.Follows first l := by
  simp only [continues, Bool.not_eq_true', Bool.or_eq_false_iff, Bool.and_eq_false_iff,
    decide_eq_false_iff_not, Nat.not_le]
  constructor
  · rintro ⟨⟨⟨hblank, hheader⟩, hcloser⟩, hinner⟩
    exact ⟨hblank, hheader, hcloser, hinner⟩
  · intro h
    exact ⟨⟨⟨h.visible, h.not_header⟩, h.not_closer⟩, h.inner⟩

/-- What a shallower line opens goes at least as far. -/
theorem Follows.of_indent_le {first other l : Line} (h : v.Follows first l)
    (hle : other.indent ≤ first.indent) : v.Follows other l :=
  ⟨h.visible, h.not_header, h.not_closer, h.inner.imp_left (Nat.lt_of_le_of_lt hle)⟩

/-- A declaration in a statement is indented deeper than the line that opens it. -/
theorem Follows.declaration_deeper (hv : v.Usable) {first l : Line} (h : v.Follows first l)
    (hd : v.isDeclaration l = true) : first.indent < l.indent := by
  refine h.inner.resolve_right fun hfree => ?_
  rw [isDeclaration_isStarter hv hd] at hfree
  exact absurd hfree.2 (by decide)

/-- A change to lines that does not show in what they are. -/
structure Unseen (v : Vocabulary) (f : Line → Line) : Prop where
  isBlank : ∀ l, (f l).isBlank = l.isBlank
  indent : ∀ l, (f l).indent = l.indent
  isComment : ∀ l, v.isComment (f l) = v.isComment l
  isDeclaration : ∀ l, v.isDeclaration (f l) = v.isDeclaration l
  isHeader : ∀ l, v.isHeader (f l) = v.isHeader l
  isCloser : ∀ l, v.isCloser (f l) = v.isCloser l
  isStarter : ∀ l, v.isStarter (f l) = v.isStarter l
  declaredName? : ∀ l, v.declaredName? (f l) = v.declaredName? l

/-- How a line ends cannot be seen. -/
theorem unseen_content (hv : v.Usable) : v.Unseen Line.content := by
  -- a line is its content with an end that each of the functions passes over
  have hcut {α : Type} (f : Line → α)
      (hf : ∀ l e : Line, (∀ c ∈ e, Line.isEol c = true) → f (l ++ e) = f l) (l : Line) :
      f l.content = f l := by
    obtain ⟨e, he, hl⟩ := l.eq_content_append
    rw [← hf l.content e he, ← hl]
  refine ⟨hcut _ ?_, hcut _ ?_, hcut _ ?_, hcut _ ?_, hcut _ ?_, hcut _ ?_, hcut _ ?_, hcut _ ?_⟩
  · intro l e he
    have hb : e.all Text.isBlank = true :=
      List.all_eq_true.mpr fun c hc => isBlank_of_isEol (he c hc)
    rw [Line.isBlank, Line.isBlank, List.all_append, hb, Bool.and_true]
  · exact fun l e he => indent_append he
  · exact fun l e he => isComment_append hv he
  · exact fun l e he => isDeclaration_append hv he
  · intro l e he
    rw [isHeader, isHeader, isComment_append hv he, opensWith_append hv.scope he]
  · exact fun l e he => startsWithWord_append hv.closer he
  · exact fun l e he => isStarter_append hv he
  · exact fun l e he => declaredName?_append hv he

end Vocabulary

namespace Config

open Text

theorem isWord_of_keywordFault? {setting keyword : String}
    (h : keywordFault? (setting, keyword) = none) : IsWord keyword.toList := by
  simp only [keywordFault?] at h
  split at h
  · contradiction
  · split at h
    · contradiction
    · rename_i hne hb
      exact ⟨by simpa using hne, by simpa [hasBlank] using hb⟩

theorem isWord_of_starterFault? {keyword : String} (h : starterFault? keyword = none) :
    IsWord keyword.toList := by
  unfold starterFault? at h
  split at h
  · contradiction
  · rename_i hb
    simp only [Bool.or_eq_true, not_or] at hb
    exact ⟨by simpa using hb.1, by simpa [hasBlank] using hb.2⟩

/-- What is left of a text that is not blank has a visible character at its end. -/
theorem trim_end {cs : List Char} (h : cs.all isBlank = false) :
    trim cs ≠ [] ∧ ∀ c ∈ (trim cs).getLast?, isBlank c = false := by
  have hstart : trimStart cs ≠ [] := by
    intro he
    have hall := List.all_eq_true.mpr (List.dropWhile_eq_nil_iff.mp he)
    simp [hall] at h
  have hhead : ∀ c ∈ (trimStart cs).head?, isBlank c = false := head?_dropWhile isBlank cs
  have hend : (trimStart cs).reverse.dropWhile isBlank ≠ [] := by
    obtain ⟨c, hc⟩ := Option.isSome_iff_exists.mp (List.isSome_head?.mpr hstart)
    intro he
    have hb := List.dropWhile_eq_nil_iff.mp he c (List.mem_reverse.mpr (List.mem_of_head? hc))
    simp [hhead c hc] at hb
  refine ⟨by simpa [trim, trimEnd] using hend, fun c hc => ?_⟩
  rw [trim, trimEnd, List.getLast?_reverse] at hc
  exact head?_dropWhile isBlank _ c hc

theorem mem_foldl_insert {w : String} (kws : List (String × String)) (ws : List String) :
    w ∈ kws.foldl (fun ws (_, u) => if ws.contains u then ws else ws ++ [u]) ws ↔
      w ∈ ws ∨ w ∈ kws.map Prod.snd := by
  induction kws generalizing ws with
  | nil => simp
  | cons k kws ih =>
    obtain ⟨setting, u⟩ := k
    rw [List.foldl_cons, ih, List.map_cons, List.mem_cons]
    by_cases hu : u ∈ ws
    · have hsame : w = u → w ∈ ws := fun h => h ▸ hu
      simp only [List.contains_eq_mem, hu, decide_true, ↓reduceIte]
      tauto
    · simp [hu, or_assoc]

/-- A configuration without a fault gives usable words. -/
theorem vocabulary_usable {c : Config} {v : Vocabulary} (h : c.vocabulary = .ok v) : v.Usable := by
  unfold vocabulary at h
  split at h
  · contradiction
  · rename_i hf
    cases h
    simp only [fault?, Option.orElse_eq_orElse, Option.orElse_eq_or, Option.or_eq_none_iff,
      List.findSome?_eq_none_iff] at hf
    obtain ⟨hkeys, hcomment, hstarters, -⟩ := hf
    have hword (setting : String) {keyword : String} (hm : (setting, keyword) ∈ c.keywords) :
        IsWord keyword.toList := isWord_of_keywordFault? (hkeys _ hm)
    have hblank : c.commentPrefix.toList.all isBlank = false := by
      simpa [allBlank] using hcomment
    refine ⟨hword "declaration_keyword" (by simp [keywords]), hword "scope_keyword" (by simp [keywords]),
      hword "closer_keyword" (by simp [keywords]), ?_, ?_, (trim_end hblank).1, (trim_end hblank).2⟩
    · intro w hw
      obtain ⟨s, hs, rfl⟩ := List.mem_map.mp hw
      exact isWord_of_starterFault? (hstarters s hs)
    · apply List.mem_map_of_mem
      exact (mem_foldl_insert _ _).mpr (Or.inr (by simp [keywords]))

theorem vocabulary_standard : vocabulary {} = .ok Vocabulary.standard := rfl

end Config

end GemOrder

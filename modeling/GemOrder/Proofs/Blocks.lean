import GemOrder.Proofs.Progress

namespace GemOrder

variable {v : Vocabulary}

inductive Block (v : Vocabulary) : List Line → Prop where
  | line (l : Line) (h : v.isDeclaration l = false) : Block v [l]
  | statement (first : Line) (tail : List Line) (hd : v.isDeclaration first = true)
      (ht : ∀ l ∈ tail, v.continues first l = true) : Block v (first :: tail)

/-- A line that can stand in a region without belonging to a statement before it. -/
def Vocabulary.isLive (v : Vocabulary) (l : Line) : Bool :=
  v.isFormatting l || v.isDeclaration l

/-- A declaration that continues a statement brings the lines that continue it along: it is indented
deeper than the statement. -/
theorem Vocabulary.continues_trans (hv : v.Usable) {first second l : Line}
    (hd : v.isDeclaration second = true) (h : v.continues first second = true)
    (h' : v.continues second l = true) : v.continues first l = true := by
  rw [continues_iff_follows] at h h' ⊢
  have hdeeper := h.declaration_deeper hv hd
  exact h'.of_indent_le (Nat.le_of_lt hdeeper)

theorem Block.ne_nil {b : List Line} (h : Block v b) : b ≠ [] := by
  cases h <;> simp

theorem Block.all_continue (hv : v.Usable) {b : List Line} (h : Block v b) {first : Line}
    (hc : ∀ l ∈ b.head?, v.continues first l = true) : ∀ l ∈ b, v.continues first l = true := by
  cases h with
  | line l h => simpa using hc
  | statement second tail hd ht =>
    have hsecond : v.continues first second = true := hc second (by simp)
    intro l hl
    rcases List.mem_cons.mp hl with rfl | hl
    · exact hsecond
    · exact Vocabulary.continues_trans hv hd hsecond (ht l hl)

/-- The lines that continue a statement are whole blocks. -/
theorem Block.split_continuation (hv : v.Usable) {bs : List (List Line)} (h : ∀ b ∈ bs, Block v b)
    (first : Line) :
    ∃ taken left, bs = taken ++ left ∧ (∀ l ∈ taken.flatten, v.continues first l = true) ∧
      ∀ l ∈ left.flatten.head?, v.continues first l = false := by
  induction bs with
  | nil => exact ⟨[], [], rfl, by simp, by simp⟩
  | cons b bs ih =>
    have hb := h b (by simp)
    obtain ⟨l, ls, rfl⟩ := List.exists_cons_of_ne_nil hb.ne_nil
    cases hc : v.continues first l with
    | false => exact ⟨[], (l :: ls) :: bs, rfl, by simp, by simpa using hc⟩
    | true =>
      obtain ⟨taken, left, rfl, ht, hl⟩ := ih fun c hm => h c (by simp [hm])
      have hall := hb.all_continue hv (by simpa using hc)
      exact ⟨(l :: ls) :: taken, left, rfl, List.forall_mem_append.mpr ⟨hall, ht⟩, hl⟩

/-- Entries with the same names have the same keys. -/
theorem Entry.keys_of_names {es es' : List Entry} (h : es'.map Entry.name = es.map Entry.name) :
    es'.map Entry.key = es.map Entry.key := by
  have hmap := congrArg (List.map (Option.map Text.lower)) h
  rw [List.map_map, List.map_map] at hmap
  exact hmap

namespace Region

open Sorter

/-- Formatting in front of lines changes neither where reading stops nor the names that it finds. -/
theorem Scanned.cons_formatting {ls trailing left : List Line} {es : List Entry} {l : Line}
    (h : Scanned v ls es trailing left) (hl : v.isFormatting l = true) :
    ∃ es' trailing', Scanned v (l :: ls) es' trailing' left ∧
      es'.map Entry.name = es.map Entry.name := by
  cases h with
  | stop _ _ hf hs =>
    refine ⟨[], l :: trailing, .stop (l :: trailing) left ?_ hs, rfl⟩
    simpa [hl] using hf
  | entry formatting first tail rest hf hd ht hr h =>
    refine ⟨_, _, .entry (l :: formatting) first tail rest ?_ hd ht hr h, rfl⟩
    simpa [hl] using hf

/-- Reading stops between blocks, and the entries that it finds open at blocks that are
declarations. -/
theorem scanned_blocks (hv : v.Usable) {bs : List (List Line)} (h : ∀ b ∈ bs, Block v b) :
    ∃ taken left es trailing, bs = taken ++ left ∧ Scanned v bs.flatten es trailing left.flatten ∧
      (es.map Entry.key).Sublist (keys v (taken.filterMap List.head?)) := by
  induction hn : bs.length using Nat.strong_induction_on generalizing bs with
  | _ n ih =>
    cases bs with
    | nil => exact ⟨[], [], [], [], rfl, .stop [] [] (by simp) (by simp), by simp⟩
    | cons b bs =>
      have hbs : ∀ c ∈ bs, Block v c := fun c hm => h c (by simp [hm])
      cases h b (by simp) with
      | line l hd =>
        cases hf : v.isFormatting l with
        | true =>
          obtain ⟨taken, left, es, trailing, he, hs, hk⟩ := ih bs.length (by simp [← hn]) hbs rfl
          obtain ⟨es', trailing', hs', hk'⟩ := hs.cons_formatting hf
          refine ⟨[l] :: taken, left, es', trailing', by rw [he, List.cons_append], hs', ?_⟩
          rw [Entry.keys_of_names hk']
          simpa [keys, hd] using hk
        | false =>
          exact ⟨[], [l] :: bs, [], [], rfl, .stop [] _ (by simp) (by simp [hf, hd]), by simp⟩
      | statement first tail hd ht =>
        obtain ⟨more, rest, rfl, hm, hr⟩ := Block.split_continuation hv hbs first
        have hlt : rest.length < n := by
          simp only [← hn, List.length_cons, List.length_append]
          omega
        obtain ⟨taken, left, es, trailing, rfl, hs, hk⟩ :=
          ih rest.length hlt (fun c hc => hbs c (by simp [hc])) rfl
        have htail : ∀ l ∈ tail ++ more.flatten, v.continues first l = true :=
          List.forall_mem_append.mpr ⟨ht, hm⟩
        have hentry := Scanned.entry [] first (tail ++ more.flatten) _ (by simp) hd htail hr hs
        have hkey : (Entry.new (v.declaredName? first) [] (first :: (tail ++ more.flatten))).key =
            (v.declaredName? first).map Text.lower := rfl
        generalize Entry.new _ _ _ = e at hentry hkey
        refine ⟨(first :: tail) :: more ++ taken, left, e :: es, trailing, by simp, ?_, ?_⟩
        · simpa using hentry
        · have hsub : (keys v (taken.filterMap List.head?)).Sublist
              (keys v ((more ++ taken).filterMap List.head?)) := by
            rw [List.filterMap_append, keys_append]
            exact List.sublist_append_right _ _
          rw [List.map_cons, hkey, List.cons_append, List.filterMap_cons]
          simpa [keys, hd] using hk.trans hsub

/-- Blocks that can stand in a region are read to their end, and no further than that if the line
behind them cannot, unless a statement among them runs on into that line. -/
theorem scanned_live (hv : v.Usable) {bs : List (List Line)} (h : ∀ b ∈ bs, Block v b)
    (hlive : ∀ b ∈ bs, ∀ l ∈ b.head?, v.isLive l = true) {left : List Line}
    (hleft : ∀ l ∈ left.head?, v.isLive l = false) :
    (∃ es trailing, Scanned v (bs.flatten ++ left) es trailing left) ∨
      ∃ before first tail behind, bs = before ++ (first :: tail) :: behind ∧
        v.isDeclaration first = true ∧
        ∃ l ∈ left.head?, ∀ k ∈ behind.flatten ++ [l], v.continues first k = true := by
  have hstop : Scanned v left [] [] left := by
    refine .stop [] left (by simp) fun l hl => ?_
    simpa [Vocabulary.isLive] using hleft l hl
  induction hn : bs.length using Nat.strong_induction_on generalizing bs with
  | _ n ih =>
    cases bs with
    | nil => exact Or.inl ⟨[], [], hstop⟩
    | cons b bs =>
      have hbs : ∀ c ∈ bs, Block v c := fun c hm => h c (by simp [hm])
      have hlives : ∀ c ∈ bs, ∀ l ∈ c.head?, v.isLive l = true := fun c hm => hlive c (by simp [hm])
      cases h b (by simp) with
      | line l hd =>
        have hf : v.isFormatting l = true := by
          simpa [Vocabulary.isLive, hd] using hlive [l] (by simp) l (by simp)
        rcases ih bs.length (by simp [← hn]) hbs hlives rfl with ⟨es, trailing, hs⟩ | hrun
        · obtain ⟨es', trailing', hs', -⟩ := hs.cons_formatting hf
          exact Or.inl ⟨es', trailing', hs'⟩
        · obtain ⟨before, first, tail, behind, rfl, hrun⟩ := hrun
          exact Or.inr ⟨[l] :: before, first, tail, behind, rfl, hrun⟩
      | statement first tail hd ht =>
        obtain ⟨more, rest, rfl, hm, hr⟩ := Block.split_continuation hv hbs first
        have hlt : rest.length < n := by
          simp only [← hn, List.length_cons, List.length_append]
          omega
        by_cases hgo : ∀ l ∈ (rest.flatten ++ left).head?, v.continues first l = false
        · rcases ih rest.length hlt (fun c hc => hbs c (by simp [hc]))
            (fun c hc => hlives c (by simp [hc])) rfl with ⟨es, trailing, hs⟩ | hrun
          · have htail : ∀ l ∈ tail ++ more.flatten, v.continues first l = true :=
              List.forall_mem_append.mpr ⟨ht, hm⟩
            have hentry := Scanned.entry [] first (tail ++ more.flatten) _ (by simp) hd htail hgo hs
            generalize Entry.new _ _ _ = e at hentry
            exact Or.inl ⟨e :: es, trailing, by simpa using hentry⟩
          · obtain ⟨before, second, tail', behind, rfl, hrun⟩ := hrun
            exact Or.inr ⟨(first :: tail) :: more ++ before, second, tail', behind, by simp, hrun⟩
        · -- the statement takes all blocks behind it, and the line after them as well
          right
          push Not at hgo
          obtain ⟨l, hl, hc⟩ := hgo
          have hnil : rest = [] := by
            cases rest with
            | nil => rfl
            | cons c rest =>
              obtain ⟨k, ks, rfl⟩ := List.exists_cons_of_ne_nil (hbs c (by simp)).ne_nil
              obtain rfl : k = l := by simpa using hl
              exact absurd (hr k (by simp)) hc
          subst hnil
          refine ⟨[], first, tail, more, by simp, hd, l, by simpa using hl, ?_⟩
          refine List.forall_mem_append.mpr ⟨hm, ?_⟩
          simpa using hc

end Region

/-- Blocks of which the first line cannot stand in a region lie behind those that can. -/
theorem Block.suffix_of_live {bs ds left : List (List Line)} (h : ∀ b ∈ bs, Block v b)
    (hlive : ∀ b ∈ bs, ∀ l ∈ b.head?, v.isLive l = true)
    (hleft : ∀ l ∈ left.flatten.head?, v.isLive l = false) (hs : left <:+ bs ++ ds) : left <:+ ds := by
  induction bs with
  | nil => exact hs
  | cons b bs ih =>
    rcases List.suffix_cons_iff.mp hs with rfl | hs
    · obtain ⟨l, ls, rfl⟩ := List.exists_cons_of_ne_nil (h b (by simp)).ne_nil
      have hl := hlive (l :: ls) (by simp) l (by simp)
      have hl' := hleft l (by simp)
      rw [hl] at hl'
      contradiction
    · exact ih (fun c hc => h c (by simp [hc])) (fun c hc => hlive c (by simp [hc])) hs

/-- Lines of which each is a block of its own. -/
def singles (ls : List Line) : List (List Line) :=
  ls.map fun l => [l]

@[simp] theorem singles_flatten (ls : List Line) : (singles ls).flatten = ls := by
  rw [singles, ← List.flatMap_def, List.flatMap_singleton']

@[simp] theorem singles_heads (ls : List Line) : (singles ls).filterMap List.head? = ls := by
  simp [singles, List.filterMap_map, Function.comp_def]

def Entry.blocks (e : Entry) : List (List Line) :=
  singles e.blanks ++ singles e.formatting ++ [e.statement]

open Sorter

theorem Entry.Formed.keys_blocks {es : List Entry} (h : ∀ e ∈ es, e.Formed v) :
    keys v ((es.flatMap Entry.blocks).filterMap List.head?) = es.map Entry.key := by
  induction es with
  | nil => rfl
  | cons e es ih =>
    have he := h e (by simp)
    obtain ⟨first, tail, hs, hd, -, hn⟩ := he.statement
    have hb : keys v e.blanks = [] := keys_eq_nil fun l hl => isDeclaration_of_blank (he.blanks l hl)
    have hf : keys v e.formatting = [] :=
      keys_eq_nil fun l hl => isDeclaration_of_formatting (he.formatting l hl)
    have hfirst : keys v [first] = [e.key] := by simp [keys, hd, Entry.key, hn]
    rw [List.flatMap_cons, List.filterMap_append, keys_append, ih fun f hm => h f (by simp [hm])]
    simp [Entry.blocks, hb, hf, hs, hfirst]

namespace Region

/-- The entries of a region in the order in which they are written. -/
def emitted (r : Region) : List Entry :=
  if r.sortable then r.entries.mergeSort Entry.le else r.entries

theorem emitted_perm (r : Region) : r.emitted.Perm r.entries := by
  rw [emitted]
  split
  · exact List.mergeSort_perm _ _
  · exact .refl _

theorem render_of_sortable {r : Region} (h : r.sortable = true) :
    r.render = r.leading ++ arrange r.emitted ++ r.trailing := by
  rw [render, emitted, if_pos h, if_pos h]

/-- A region that is sorted has a first and a second entry. -/
theorem exists_emitted {r : Region} (h : r.sortable = true) : ∃ e f es, r.emitted = e :: f :: es := by
  have hlen : 1 < r.emitted.length := by
    rw [r.emitted_perm.length_eq]
    exact two_entries h
  rcases hes : r.emitted with _ | ⟨e, _ | ⟨f, es⟩⟩
  · simp [hes] at hlen
  · simp [hes] at hlen
  · exact ⟨e, f, es, rfl⟩

/-- The blocks of entries as they are arranged. -/
def arrangedBlocks : List Entry → List (List Line)
  | [] => []
  | e :: es => singles e.formatting ++ [e.statement] ++ singles e.blanks ++ es.flatMap Entry.blocks

def blocks (r : Region) : List (List Line) :=
  singles r.leading ++ arrangedBlocks r.emitted ++ singles r.trailing

theorem Formed.blocks_flatten {r : Region} (h : r.Formed v) : r.blocks.flatten = r.render := by
  have hes : ∀ es : List Entry, (es.flatMap Entry.blocks).flatten = es.flatMap Entry.lines := by
    intro es
    induction es with
    | nil => rfl
    | cons e es ih => simp [Entry.blocks, Entry.lines, ih]
  have harr : ∀ es : List Entry, (arrangedBlocks es).flatten = arrange es := by
    intro es
    cases es with
    | nil => rfl
    | cons e es => simp [arrangedBlocks, arrange, hes]
  rw [blocks, render, emitted]
  split
  · simp [harr]
  · simp [harr, arrange_of_first h.first, lines]

/-- A block of a region is a line of its formatting or the statement of an entry. -/
theorem Formed.mem_blocks {r : Region} (h : r.Formed v) {b : List Line} (hb : b ∈ r.blocks) :
    (∃ l, b = [l] ∧ v.isFormatting l = true) ∨ ∃ e ∈ r.entries, b = e.statement := by
  have hblank : ∀ l : Line, l.isBlank = true → v.isFormatting l = true := by
    intro l hl
    simp [Vocabulary.isFormatting, hl]
  have hentry : ∀ e ∈ r.emitted, b ∈ e.blocks →
      (∃ l, b = [l] ∧ v.isFormatting l = true) ∨ ∃ e ∈ r.entries, b = e.statement := by
    intro e he hb
    have hm := r.emitted_perm.mem_iff.mp he
    have hf := h.entries e hm
    simp only [Entry.blocks, singles, List.mem_append, List.mem_map, List.mem_singleton] at hb
    rcases hb with (⟨l, hl, rfl⟩ | ⟨l, hl, rfl⟩) | rfl
    · exact Or.inl ⟨l, rfl, hblank l (hf.blanks l hl)⟩
    · exact Or.inl ⟨l, rfl, hf.formatting l hl⟩
    · exact Or.inr ⟨e, hm, rfl⟩
  have harr : ∀ es : List Entry, b ∈ arrangedBlocks es → ∃ e ∈ es, b ∈ e.blocks := by
    intro es hb
    cases es with
    | nil => contradiction
    | cons e es =>
      simp only [arrangedBlocks, Entry.blocks, List.mem_append, List.mem_flatMap, List.mem_cons] at hb ⊢
      grind
  simp only [blocks, singles, List.mem_append, List.mem_map] at hb
  rcases hb with (⟨l, hl, rfl⟩ | hb) | ⟨l, hl, rfl⟩
  · exact Or.inl ⟨l, rfl, hblank l (h.leading l hl)⟩
  · obtain ⟨e, he, hb⟩ := harr _ hb
    exact hentry e he hb
  · exact Or.inl ⟨l, rfl, h.trailing l hl⟩

theorem Formed.blocks_block {r : Region} (h : r.Formed v) :
    ∀ b ∈ r.blocks, Block v b ∧ ∀ l ∈ b.head?, v.isLive l = true := by
  intro b hb
  rcases h.mem_blocks hb with ⟨l, rfl, hl⟩ | ⟨e, he, rfl⟩
  · exact ⟨.line l (isDeclaration_of_formatting hl), by simp [Vocabulary.isLive, hl]⟩
  · obtain ⟨first, tail, hs, hd, ht, -⟩ := (h.entries e he).statement
    rw [hs]
    exact ⟨.statement first tail hd ht, by simp [Vocabulary.isLive, hd]⟩

/-- The keys of a region as it is written are those of its entries, without the declarations that lie
inside statements. -/
theorem Formed.keys_blocks {r : Region} (h : r.Formed v) :
    keys v (r.blocks.filterMap List.head?) = r.emitted.map Entry.key := by
  have hl : keys v r.leading = [] := keys_eq_nil fun l hl => isDeclaration_of_blank (h.leading l hl)
  have ht : keys v r.trailing = [] :=
    keys_eq_nil fun l hl => isDeclaration_of_formatting (h.trailing l hl)
  have hes : ∀ e ∈ r.emitted, e.Formed v := fun e he => h.entries e (r.emitted_perm.mem_iff.mp he)
  simp only [blocks, List.filterMap_append, keys_append, singles_heads, hl, ht, List.nil_append,
    List.append_nil]
  rw [← Entry.Formed.keys_blocks hes]
  cases he : r.emitted with
  | nil => rfl
  | cons e es =>
    have hb : keys v e.blanks = [] :=
      keys_eq_nil fun l hl => isDeclaration_of_blank ((hes e (by simp [he])).blanks l hl)
    simp only [arrangedBlocks, Entry.blocks, List.flatMap_cons, List.filterMap_append, keys_append,
      singles_heads, hb, List.nil_append, List.append_nil]

end Region

end GemOrder

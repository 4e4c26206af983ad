import GemOrder.Proofs.Layout

namespace GemOrder

variable {v : Vocabulary} {ls : List Line} {i stop : Nat}

/-- Line `n` is looked at in a search up to `stop`, and there is no such line. -/
def Misses (ls : List Line) (stop n : Nat) : Prop :=
  n < stop ∧ ls.length ≤ n

instance (ls : List Line) (stop n : Nat) : Decidable (Misses ls stop n) :=
  inferInstanceAs (Decidable (_ ∧ _))

theorem slice_drop (ls : List Line) (i stop n : Nat) :
    (slice ls i stop).drop n = slice ls (i + n) stop := by
  rw [slice, slice, List.drop_take, List.drop_drop, Nat.sub_add_eq]

theorem slice_of_getElem? {l : Line} (h : i < stop) (hl : ls[i]? = some l) :
    slice ls i stop = l :: slice ls (i + 1) stop := by
  obtain ⟨hi, rfl⟩ := List.getElem?_eq_some_iff.mp hl
  rw [slice, slice, List.drop_eq_getElem_cons hi, ← Nat.succ_pred_eq_of_pos (Nat.sub_pos_of_lt h),
    List.take_succ_cons, Nat.sub_add_eq, Nat.pred_eq_sub_one]

theorem slice_of_length_le (stop : Nat) (h : ls.length ≤ i) : slice ls i stop = [] := by
  rw [slice, List.drop_eq_nil_of_le h, List.take_nil]

theorem slice_of_le (ls : List Line) (h : stop ≤ i) : slice ls i stop = [] := by
  rw [slice, Nat.sub_eq_zero_of_le h, List.take_zero]

/-- The first line of a range is there to be looked at. -/
theorem slice_eq_cons {l : Line} {rest : List Line} (h : slice ls i stop = l :: rest) :
    i < stop ∧ ls[i]? = some l ∧ slice ls (i + 1) stop = rest := by
  have hlt : i < stop := by
    apply Nat.lt_of_not_le
    intro hle
    rw [slice_of_le ls hle] at h
    contradiction
  cases hl : ls[i]? with
  | none =>
    rw [slice_of_length_le stop (List.getElem?_eq_none_iff.mp hl)] at h
    contradiction
  | some k =>
    rw [slice_of_getElem? hlt hl] at h
    cases h
    exact ⟨hlt, rfl, rfl⟩

theorem slice_behind {xs rest : List Line} (h : slice ls i stop = xs ++ rest) :
    slice ls (i + xs.length) stop = rest := by
  rw [← slice_drop, h, List.drop_left]

theorem exists_of_not_misses {n : Nat} (h : ¬ Misses ls stop n) (hn : n < stop) :
    ∃ l, ls[n]? = some l :=
  ⟨_, List.getElem?_eq_getElem (Nat.lt_of_not_le fun hle => h ⟨hn, hle⟩)⟩

/-- A search along lines gives those that it goes over, unless it comes to a line that does not
exist. -/
theorem linesWhile?_eq (p : Line → Bool) (ls : List Line) (i stop : Nat) :
    linesWhile? p ls i stop =
      if Misses ls stop (i + ((slice ls i stop).takeWhile p).length) then none
      else some ((slice ls i stop).takeWhile p) := by
  fun_induction linesWhile? p ls i stop with
  | case1 i h hl =>
    have hlen : ls.length ≤ i := List.getElem?_eq_none_iff.mp hl
    rw [slice_of_length_le stop hlen]
    exact (if_pos ⟨h, hlen⟩).symm
  | case2 i h l hl hp ih =>
    rw [ih, slice_of_getElem? h hl, List.takeWhile_cons_of_pos hp, List.length_cons, Nat.add_assoc,
      Nat.add_comm 1]
    split <;> rfl
  | case3 i h l hl hp =>
    have hlen : i < ls.length := (List.getElem?_eq_some_iff.mp hl).1
    rw [slice_of_getElem? h hl, List.takeWhile_cons_of_neg hp]
    exact (if_neg fun hm => absurd hm.2 (Nat.not_le_of_lt hlen)).symm
  | case4 i h =>
    rw [slice_of_le ls (Nat.le_of_not_lt h)]
    exact (if_neg fun hm => h hm.1).symm

theorem linesWhile?_of_slice {p : Line → Bool} {xs rest : List Line} (h : slice ls i stop = xs ++ rest)
    (hx : ∀ l ∈ xs, p l = true) (hr : ∀ l ∈ rest.head?, p l = false) :
    linesWhile? p ls i stop = if Misses ls stop (i + xs.length) then none else some xs := by
  rw [linesWhile?_eq, h, (Text.span_append hx hr).1]

namespace Region

/-- Reading by numbers gives what there is to read in the lines of the range, unless it comes to a line
that does not exist. -/
theorem Scanned.scanAt?_eq {es : List Entry} {trailing left : List Line}
    (h : Scanned v (slice ls i stop) es trailing left) :
    scanAt? v ls i stop =
      if Misses ls stop (i + (es.flatMap Entry.lines ++ trailing).length) then none
      else some (es, trailing, i + (es.flatMap Entry.lines ++ trailing).length) := by
  generalize hs : slice ls i stop = xs at h
  induction h generalizing i with
  | stop formatting left hf hl =>
    rw [scanAt?, linesWhile?_of_slice hs hf fun l h => (hl l h).1, List.flatMap_nil, List.nil_append]
    by_cases hm : Misses ls stop (i + formatting.length)
    · rw [if_pos hm, if_pos hm]
      rfl
    · rw [if_neg hm, if_neg hm]
      have hleft := slice_behind hs
      by_cases hj : i + formatting.length < stop
      · obtain ⟨l, hget⟩ := exists_of_not_misses hm hj
        rw [slice_of_getElem? hj hget] at hleft
        have hno := (hl l (by simp [← hleft])).2
        simp [hj, hget, hno]
      · simp [hj]
  | @entry formatting first tail rest es trailing left hf hd ht hr h ih =>
    have hhead : ∀ l ∈ (first :: (tail ++ rest)).head?, v.isFormatting l = false := by
      simpa using Vocabulary.isDeclaration_not_formatting hd
    obtain ⟨hj, hget, htail⟩ := slice_eq_cons (slice_behind hs)
    have hlen := (List.getElem?_eq_some_iff.mp hget).1
    have hfound : ¬ Misses ls stop (i + formatting.length) := fun hm =>
      absurd hm.2 (Nat.not_le_of_lt hlen)
    have hrest := slice_behind htail
    have hsum : i + (((Entry.new (v.declaredName? first) formatting (first :: tail)) :: es).flatMap
        Entry.lines ++ trailing).length = i + formatting.length + 1 + tail.length +
          (es.flatMap Entry.lines ++ trailing).length := by
      simp only [List.flatMap_cons, Entry.new_lines, List.length_append, List.length_cons]
      omega
    rw [scanAt?, linesWhile?_of_slice hs hf hhead, if_neg hfound]
    simp only [Option.bind_eq_bind, Option.bind_some, hj, hget, hd, ↓reduceIte,
      linesWhile?_of_slice htail ht hr, hsum]
    by_cases hm : Misses ls stop (i + formatting.length + 1 + tail.length)
    · -- the statement reaches to the end of the lines, so that nothing is left to read
      have hnil := h.lines
      rw [← hrest, slice_of_length_le stop hm.2, eq_comm, List.append_eq_nil_iff] at hnil
      simp only [hnil.1, List.length_nil, Nat.add_zero, if_pos hm, Option.bind_none]
    · rw [if_neg hm]
      simp only [Option.bind_some, ih hrest]
      split <;> rfl

/-- Reading that has found something ends with the range exactly if nothing is left. -/
theorem Scanned.ends_iff {es : List Entry} {trailing left : List Line}
    (h : Scanned v (slice ls i stop) es trailing left) (hne : es ≠ [])
    (hm : ¬ Misses ls stop (i + (es.flatMap Entry.lines ++ trailing).length)) :
    i + (es.flatMap Entry.lines ++ trailing).length = stop ↔ left = [] := by
  obtain ⟨e, he⟩ := List.exists_mem_of_ne_nil es hne
  have hpos : 0 < (es.flatMap Entry.lines ++ trailing).length := by
    refine List.length_pos_of_mem (a := e.statement.head (h.formed e he).statement_ne) ?_
    simp only [List.mem_append, List.mem_flatMap]
    refine Or.inl ⟨e, he, ?_⟩
    simp [Entry.lines]
  have hlen := congrArg List.length h.lines
  rw [List.length_append, slice, List.length_take, List.length_drop] at hlen
  rw [← List.length_eq_zero_iff]
  unfold Misses at hm
  omega

/-- The region at the front of a range, unless the search for its end comes to a line that does not
exist. -/
theorem at?_eq (v : Vocabulary) (ls : List Line) (start stop : Nat) :
    at? v ls start stop =
      if Misses ls stop (read v start ls[stop]? (slice ls start stop)).stop then none
      else some (read v start ls[stop]? (slice ls start stop)) := by
  have hs := scan_scanned v (slice ls start stop)
  have hstop : (read v start ls[stop]? (slice ls start stop)).stop =
      start + ((scan v (slice ls start stop)).1.flatMap Entry.lines ++
        (scan v (slice ls start stop)).2.1).length := by
    rw [← takeBlanks_lines]
    rfl
  rw [at?, hs.scanAt?_eq, hstop]
  by_cases hm : Misses ls stop (start + ((scan v (slice ls start stop)).1.flatMap Entry.lines ++
      (scan v (slice ls start stop)).2.1).length)
  · rw [if_pos hm, if_pos hm]
    rfl
  · rw [if_neg hm, if_neg hm]
    have hends := fun hne => hs.ends_iff hne hm
    simp only [Option.bind_eq_bind, Option.bind_some, read]
    generalize scan v (slice ls start stop) = s at hends
    obtain ⟨found, trailing, left⟩ := s
    rcases found with _ | ⟨e, es⟩
    · rfl
    · have hempty : left.isEmpty =
          (start + ((e :: es).flatMap Entry.lines ++ trailing).length == stop) := by
        rw [Bool.eq_iff_iff, List.isEmpty_iff, beq_iff_eq]
        exact (hends (by simp)).symm
      rw [hempty]
      rfl

end Region

end GemOrder

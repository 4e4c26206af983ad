import GemOrder.Proofs.Endings

namespace GemOrder

namespace Source

/-- A carriage return stands before every newline. -/
def AllReturned (text : List Char) : Prop :=
  ∀ before behind, text = before ++ '\n' :: behind → before.getLast? = some '\r'

/-- A carriage return stands before no newline. -/
def NoneReturned (text : List Char) : Prop :=
  ∀ before behind, text = before ++ '\n' :: behind → before.getLast? ≠ some '\r'

theorem noneReturned_iff (text : List Char) : NoneReturned text ↔ hasCarriageReturn text = false := by
  rw [← Bool.not_eq_true, hasCarriageReturn_iff]
  constructor
  · rintro h ⟨before, behind, hinfix⟩
    exact h (before ++ ['\r']) behind (by simp [← hinfix]) (by simp)
  · rintro h before behind rfl hlast
    obtain ⟨init, rfl⟩ := List.getLast?_eq_some_iff.mp hlast
    exact h ⟨init, behind, by simp⟩

/-- A carriage return and a newline can be added at the end. -/
theorem AllReturned.completed {text : List Char} (h : AllReturned text) :
    AllReturned (text ++ ['\r', '\n']) := by
  intro before behind heq
  rcases List.append_eq_append_iff.mp heq with ⟨mid, rfl, hmid⟩ | ⟨mid, rfl, hmid⟩
  · -- the newline is the one that was added
    rcases mid with _ | ⟨c, mid⟩
    · simp at hmid
    · obtain ⟨rfl, hmid⟩ := List.cons.inj hmid
      rcases mid with _ | ⟨d, mid⟩
      · simp
      · simp at hmid
  · rcases mid with _ | ⟨c, mid⟩
    · simp at hmid
    · obtain ⟨rfl, -⟩ := List.cons.inj hmid
      exact h before mid rfl

theorem AllReturned.suffix {ls : List Line} (hls : ∀ l ∈ ls, l.Terminated) (h : AllReturned ls.flatten) :
    ∀ l ∈ ls, ['\r', '\n'] <:+ l := by
  intro l hl
  obtain ⟨front, back, rfl⟩ := List.append_of_mem hl
  obtain ⟨m, hm, rfl⟩ := hls l hl
  have hfront : ∀ k ∈ front, k.Terminated := fun k hk => hls k (by simp [hk])
  obtain ⟨init, hinit⟩ := List.getLast?_eq_some_iff.mp (h (front.flatten ++ m) back.flatten (by simp))
  have hsuffix : ['\r', '\n'] <:+ front.flatten ++ (m ++ ['\n']) :=
    ⟨init, by rw [← List.append_assoc, hinit]; simp⟩
  obtain ⟨k, -, hk⟩ := completion_suffix (Or.inr rfl) hfront hm hsuffix
  exact ⟨k, hk.symm⟩

section Moved

variable {text : List Char} {ls : List Line}

/-- If the newlines of a text are of one kind, moved lines end in what completed the text. -/
theorem added_suffix (hkind : AllReturned text ∨ NoneReturned text) (hp : ls.Perm (split text).lines) :
    (split text).added <:+ ls.flatten := by
  rcases added_cases text with ha | ha | ha
  · exact suffix_of_newline hp (Or.inl ha)
  · exact suffix_of_newline hp (Or.inr ha)
  · rcases hkind with hall | hnone
    · have hflat : AllReturned (split text).lines.flatten := by
        rw [flatten_split, ha]
        exact hall.completed
      rw [added_suffix_iff hp, ha]
      intro l hl
      exact hflat.suffix (split_terminated text) l (hp.mem_iff.mp (List.mem_of_getLast? hl))
    · have hopen : (split text).added ≠ [] := by simp [ha]
      have hadded := added_of_incomplete hopen
      rw [(noneReturned_iff text).mp hnone, ha] at hadded
      simp at hadded

/-- An empty line that comes last is taken away as a whole, so that the line before it ends the text. -/
theorem getLast?_join_of_blank (hp : ls.Perm (split text).lines) (hadd : (split text).added ≠ [])
    (hlast : ls.getLast? = some (split text).added) : ((split text).join ls).getLast? = some '\n' := by
  obtain ⟨init, rfl⟩ := List.getLast?_eq_some_iff.mp hlast
  rw [join_of_append init.flatten (by simp)]
  rcases List.eq_nil_or_concat init with rfl | ⟨front, k, rfl⟩
  · -- what was added stands behind something, so that it is no line of the text by itself
    have hlines := List.perm_singleton.mp hp.symm
    exact absurd rfl (split_getLast_ne text hadd _ (by rw [hlines]; rfl))
  · obtain ⟨m, -, rfl⟩ := split_terminated text k (hp.mem_iff.mp (by simp))
    simp

/-- Joined lines end in a newline if the text did, or if an empty line comes last where it did not. -/
theorem getLast?_join_iff (hp : ls.Perm (split text).lines) (h : (split text).added <:+ ls.flatten) :
    ((split text).join ls).getLast? = some '\n' ↔ text.getLast? = some '\n' ∨
      (split text).added ≠ [] ∧ ls.getLast? = some (split text).added := by
  by_cases hblank : (split text).added ≠ [] ∧ ls.getLast? = some (split text).added
  · exact iff_of_true (getLast?_join_of_blank hp hblank.1 hblank.2) (Or.inr hblank)
  · rw [or_iff_left hblank]
    apply getLast?_join hp h
    rintro hadd l hl rfl
    exact hblank ⟨hadd, hl⟩

end Moved

end Source

open Source

/-- The lines of a text are terminated, and joining them gives the text. If its newlines are of one
kind, joining its lines in any order gives as many bytes, and a newline at the end exactly if the text
has one there, or it was completed and the last line is nothing but what completed it. -/
theorem split_join_reordered (text : List Char) :
    (∀ l ∈ (split text).lines, l.Terminated) ∧ (split text).join (split text).lines = text ∧
      (AllReturned text ∨ NoneReturned text → ∀ ls : List Line, ls.Perm (split text).lines →
        String.utf8Len ((split text).join ls) = String.utf8Len text ∧
        (((split text).join ls).getLast? = some '\n' ↔ text.getLast? = some '\n' ∨
          (split text).added ≠ [] ∧ ls.getLast? = some (split text).added)) := by
  refine ⟨split_terminated text, join_split text, fun hkind ls hp => ?_⟩
  have hsuffix := added_suffix hkind hp
  exact ⟨utf8Len_join hp hsuffix, getLast?_join_iff hp hsuffix⟩

/-- The last line ends in a carriage return, so that what completes it looks like a newline of the other
kind. -/
theorem split_join_reordered_stray :
    NoneReturned "b\n\nc\r".toList ∧
      ["c\r\n".toList, "\n".toList, "b\n".toList].Perm (split "b\n\nc\r".toList).lines ∧
      String.utf8Len ((split "b\n\nc\r".toList).join ["c\r\n".toList, "\n".toList, "b\n".toList]) =
        String.utf8Len "b\n\nc\r".toList ∧
      ((split "b\n\nc\r".toList).join ["c\r\n".toList, "\n".toList, "b\n".toList]).getLast? ≠
        some '\n' := by
  have hkind : NoneReturned "b\n\nc\r".toList := (noneReturned_iff _).mpr (by decide)
  have hp : ["c\r\n".toList, "\n".toList, "b\n".toList].Perm (split "b\n\nc\r".toList).lines := by
    decide
  obtain ⟨hsize, hend⟩ := (split_join_reordered _).2.2 (Or.inr hkind) _ hp
  exact ⟨hkind, hp, hsize, fun h => absurd (hend.mp h) (by decide)⟩

/-- The empty line at the front of the text comes last, and taking away its newline leaves that of the
line before it. -/
theorem join_blank_last :
    NoneReturned "\na".toList ∧
      ["a\n".toList, "\n".toList].Perm (split "\na".toList).lines ∧
      ¬ ((((split "\na".toList).join ["a\n".toList, "\n".toList]).getLast? = some '\n' ↔
          "\na".toList.getLast? = some '\n') ∧
        String.utf8Len ((split "\na".toList).join ["a\n".toList, "\n".toList]) =
          String.utf8Len "\na".toList) := by
  refine ⟨(noneReturned_iff _).mpr (by decide), by decide, fun h => ?_⟩
  exact absurd (h.1.mp (by decide)) (by decide)

end GemOrder

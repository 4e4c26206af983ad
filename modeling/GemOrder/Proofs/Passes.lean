import GemOrder.Proofs.Progress
import Mathlib

namespace GemOrder

namespace Vocabulary

variable {v : Vocabulary}

theorem keys_iterate_perm (hv : v.Usable) (text : String) (n : Nat) :
    (v.keys (v.sort^[n] text)).Perm (v.keys text) := by
  induction n with
  | zero => exact .refl _
  | succ n ih =>
    rw [Function.iterate_succ_apply']
    exact (keys_sort_perm hv _).trans ih

/-- A text that sorting changes does not come back. -/
theorem keys_iterate_lt (hv : v.Usable) {text : String} (h : v.sort text ≠ text) (n : Nat) :
    Entry.KeysLT (v.keys (v.sort^[n + 1] text)) (v.keys text) := by
  induction n with
  | zero => exact (keys_sort_lt hv text).resolve_left fun hs => h (sort_of_settled hs)
  | succ n ih =>
    rw [Function.iterate_succ_apply']
    rcases keys_sort_lt hv (v.sort^[n + 1] text) with hs | hlt
    · rw [sort_of_settled hs]
      exact ih
    · exact Entry.keysLT_trans hlt ih

/-- Otherwise the keys would run through infinitely many orders of the same finite list. -/
theorem exists_sort_iterate_eq (hv : v.Usable) (text : String) :
    ∃ n, v.sort (v.sort^[n] text) = v.sort^[n] text := by
  by_contra hno
  have hne : ∀ n, v.sort (v.sort^[n] text) ≠ v.sort^[n] text := fun n hn => hno ⟨n, hn⟩
  have hlt : ∀ m k, Entry.KeysLT (v.keys (v.sort^[m + (k + 1)] text)) (v.keys (v.sort^[m] text)) := by
    intro m k
    rw [Nat.add_comm, Function.iterate_add_apply]
    exact keys_iterate_lt hv (hne m) k
  have hinj : Function.Injective fun n => v.keys (v.sort^[n] text) := by
    have hkey : ∀ m n, m < n → v.keys (v.sort^[m] text) ≠ v.keys (v.sort^[n] text) := by
      intro m n hmn he
      obtain ⟨k, rfl⟩ := Nat.exists_eq_add_of_lt hmn
      have := hlt m k
      rw [← Nat.add_assoc, ← he] at this
      exact Entry.keysLT_irrefl _ this
    intro m n he
    rcases Nat.lt_trichotomy m n with hmn | rfl | hnm
    · exact absurd he (hkey m n hmn)
    · rfl
    · exact absurd he.symm (hkey n m hnm)
  have hfin : (Set.range fun n => v.keys (v.sort^[n] text)).Finite := by
    apply (List.finite_toSet (v.keys text).permutations).subset
    rintro _ ⟨n, rfl⟩
    exact List.mem_permutations.mpr (keys_iterate_perm hv text n)
  exact Set.infinite_range_of_injective hinj hfin

end Vocabulary

/-- Each pass of sorting changes nothing or makes the keys of the declarations strictly smaller, so
that passes come to rest and never go round in a circle. -/
theorem sort_progresses {c : Config} {v : Vocabulary} (hv : c.vocabulary = .ok v) (text : String) :
    (v.sort text = text ∨ (v.keys (v.sort text)).Perm (v.keys text) ∧
        Entry.KeysLT (v.keys (v.sort text)) (v.keys text)) ∧
      (∃ n, v.sort (v.sort^[n] text) = v.sort^[n] text) ∧
      ∀ m n, 0 < n → v.sort^[m + n] text = v.sort^[m] text →
        v.sort (v.sort^[m] text) = v.sort^[m] text := by
  have hu := Config.vocabulary_usable hv
  refine ⟨?_, Vocabulary.exists_sort_iterate_eq hu text, ?_⟩
  · rcases Vocabulary.keys_sort_lt hu text with hs | hlt
    · exact Or.inl (Vocabulary.sort_of_settled hs)
    · exact Or.inr ⟨Vocabulary.keys_sort_perm hu text, hlt⟩
  · intro m n hn he
    by_contra hne
    obtain ⟨k, rfl⟩ := Nat.exists_eq_add_of_lt hn
    have hlt := Vocabulary.keys_iterate_lt hu hne k
    rw [Nat.zero_add, Nat.add_comm m, Function.iterate_add_apply] at he
    rw [he] at hlt
    exact Entry.keysLT_irrefl _ hlt

set_option maxRecDepth 20000 in
/-- The second declaration belongs to the statement of the first and moves with it. -/
theorem sort_progresses_indented :
    Config.vocabulary {} = .ok Vocabulary.standard ∧
      Entry.KeysLT (Vocabulary.standard.keys (Vocabulary.standard.sort "gem 'b'\n  gem 'z'\ngem 'a'"))
        (Vocabulary.standard.keys "gem 'b'\n  gem 'z'\ngem 'a'") := by
  have hne : Vocabulary.standard.sort "gem 'b'\n  gem 'z'\ngem 'a'" ≠ "gem 'b'\n  gem 'z'\ngem 'a'" := by
    cbv
  have hv := Config.vocabulary_standard
  exact ⟨hv, ((sort_progresses hv "gem 'b'\n  gem 'z'\ngem 'a'").1.resolve_left hne).2⟩

end GemOrder

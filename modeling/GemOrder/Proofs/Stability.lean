import GemOrder.Proofs.Names
import GemOrder.Region
import Mathlib.Data.List.Perm.Basic
import Mathlib.Data.List.Nodup

namespace GemOrder

/-- `ys` are `xs` in the order of their keys, and those of one key keep their order. -/
structure StablySorted {α : Type} (key : α → Option (List Char)) (xs ys : List α) : Prop where
  ordered : ys.Pairwise fun a b => Entry.keyLE (key a) (key b) = true
  kept : ∀ k, ys.filter (key · == k) = xs.filter (key · == k)

namespace StablySorted

variable {α β : Type} {key : α → Option (List Char)} {xs ys zs : List α}

theorem perm (h : StablySorted key xs ys) : ys.Perm xs := by
  classical
  rw [List.perm_iff_count]
  intro a
  have hkept := congrArg (List.count a) (h.kept (key a))
  rwa [List.count_filter (by simp), List.count_filter (by simp)] at hkept

/-- Sorting leaves the first of some things in front if they are in order. -/
theorem head_eq {a b : α} (h : StablySorted key (b :: xs) (a :: ys))
    (hx : (b :: xs).Pairwise fun a b => Entry.keyLE (key a) (key b) = true) : a = b := by
  have hp := h.perm
  have hle {c e : α} {cs : List α} (hc : (c :: cs).Pairwise fun a b => Entry.keyLE (key a) (key b) = true)
      (he : e ∈ c :: cs) : Entry.keyLE (key c) (key e) = true := by
    rcases List.mem_cons.mp he with rfl | he
    · exact Entry.keyLE_refl _
    · exact List.rel_of_pairwise_cons hc he
  have hkey : key a = key b :=
    Entry.keyLE_antisymm (hle h.ordered (hp.mem_iff.mpr (by simp))) (hle hx (hp.mem_iff.mp (by simp)))
  have hkept := h.kept (key b)
  rw [List.filter_cons_of_pos (by simp [hkey]), List.filter_cons_of_pos (by simp)] at hkept
  exact (List.cons.inj hkept).1

theorem tail {a : α} (h : StablySorted key (a :: xs) (a :: ys)) : StablySorted key xs ys where
  ordered := h.ordered.tail
  kept := by
    intro k
    have hk := h.kept k
    rw [List.filter_cons, List.filter_cons] at hk
    split at hk
    · exact (List.cons.inj hk).2
    · exact hk

/-- What is in order already is sorted as it is. -/
theorem eq_of_ordered (h : StablySorted key xs ys)
    (hx : xs.Pairwise fun a b => Entry.keyLE (key a) (key b) = true) : ys = xs := by
  induction ys generalizing xs with
  | nil => exact h.perm.nil_eq
  | cons a ys ih =>
    cases xs with
    | nil => exact h.perm.eq_nil
    | cons b xs =>
      obtain rfl : a = b := h.head_eq hx
      rw [ih h.tail hx.tail]

/-- There is only one order in which things are sorted and stay in order where their keys are equal. -/
theorem unique (h : StablySorted key xs ys) (h' : StablySorted key xs zs) : ys = zs := by
  have hsame : StablySorted key zs ys := ⟨h.ordered, fun k => (h.kept k).trans (h'.kept k).symm⟩
  exact hsame.eq_of_ordered h'.ordered

theorem map {f : α → β} {key' : β → Option (List Char)} (hf : ∀ a, key' (f a) = key a)
    (h : StablySorted key xs ys) : StablySorted key' (xs.map f) (ys.map f) where
  ordered := by
    rw [List.pairwise_map]
    simpa only [hf] using h.ordered
  kept := by
    intro k
    have hcomp : (fun b => key' b == k) ∘ f = fun a => key a == k := by
      funext a
      simp [hf]
    rw [List.filter_map, List.filter_map, hcomp, h.kept k]

/-- If no two keys are equal, the sorted order is the same from whatever order sorting starts. -/
theorem of_perm (h : StablySorted key xs ys) (hp : zs.Perm xs) (hn : (xs.map key).Nodup) :
    StablySorted key zs ys where
  ordered := h.ordered
  kept := by
    intro k
    rw [h.kept k]
    have hone : (xs.filter (key · == k)).length ≤ 1 := by
      have hcount := List.nodup_iff_count_le_one.mp hn k
      rwa [List.count_eq_countP, List.countP_map, List.countP_eq_length_filter] at hcount
    have hfilter := hp.filter (key · == k)
    rcases hxs : xs.filter (key · == k) with _ | ⟨a, _ | ⟨b, as⟩⟩
    · rw [hxs] at hfilter
      exact hfilter.eq_nil.symm
    · rw [hxs] at hfilter
      exact (List.perm_singleton.mp hfilter).symm
    · simp [hxs] at hone

end StablySorted

/-- What a region is sorted with is a stable sort. -/
theorem stablySorted_mergeSort {α : Type} (key : α → Option (List Char)) (xs : List α) :
    StablySorted key xs (xs.mergeSort fun a b => Entry.keyLE (key a) (key b)) := by
  have htrans (a b c : α) (hab : Entry.keyLE (key a) (key b) = true)
      (hbc : Entry.keyLE (key b) (key c) = true) : Entry.keyLE (key a) (key c) = true :=
    Entry.keyLE_trans hab hbc
  have htotal (a b : α) : (Entry.keyLE (key a) (key b) || Entry.keyLE (key b) (key a)) = true := by
    rw [Bool.or_eq_true]
    exact Entry.keyLE_total (key a) (key b)
  refine ⟨List.pairwise_mergeSort htrans htotal xs, fun k => ?_⟩
  -- those of one key are in order as they stand, and sorting keeps every such part of the list
  have hsame : (xs.filter (key · == k)).Pairwise fun a b => Entry.keyLE (key a) (key b) = true := by
    apply List.pairwise_of_forall_mem_list
    intro a ha b hb
    have hka : key a = k := beq_iff_eq.mp (List.mem_filter.mp ha).2
    have hkb : key b = k := beq_iff_eq.mp (List.mem_filter.mp hb).2
    rw [hka, hkb]
    exact Entry.keyLE_refl k
  have hsub := (List.sublist_mergeSort htrans htotal hsame List.filter_sublist).filter (key · == k)
  simp only [List.filter_filter, Bool.and_self] at hsub
  exact (hsub.eq_of_length ((List.mergeSort_perm xs _).symm.filter _).length_eq).symm

end GemOrder

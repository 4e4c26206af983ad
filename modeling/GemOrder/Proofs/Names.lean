import GemOrder.Entry
import Mathlib.Data.List.Lex

namespace GemOrder.Entry

theorem nameLE_refl (a : List Char) : nameLE a a = true := by
  induction a with
  | nil => rfl
  | cons c a ih => simpa [nameLE] using ih

theorem nameLE_trans {a b c : List Char} (hab : nameLE a b = true) (hbc : nameLE b c = true) :
    nameLE a c = true := by
  induction a generalizing b c with
  | nil => rfl
  | cons x a ih =>
    cases b with
    | nil => simp [nameLE] at hab
    | cons y b =>
      cases c with
      | nil => simp [nameLE] at hbc
      | cons z c =>
        simp only [nameLE, beq_iff_eq] at hab hbc ⊢
        by_cases hxy : x = y
        · subst y
          by_cases hxz : x = z
          · rw [if_pos hxz] at hbc ⊢
            rw [if_pos rfl] at hab
            exact ih hab hbc
          · rwa [if_neg hxz] at hbc ⊢
        · rw [if_neg hxy, decide_eq_true_eq] at hab
          by_cases hyz : y = z
          · subst z
            rw [if_neg hxy, decide_eq_true_eq]
            exact hab
          · rw [if_neg hyz, decide_eq_true_eq] at hbc
            have hxz : x ≠ z := by
              rintro rfl
              omega
            rw [if_neg hxz, decide_eq_true_eq]
            omega

theorem nameLE_total (a b : List Char) : nameLE a b = true ∨ nameLE b a = true := by
  induction a generalizing b with
  | nil => exact Or.inl rfl
  | cons x a ih =>
    cases b with
    | nil => exact Or.inr rfl
    | cons y b =>
      simp only [nameLE, beq_iff_eq]
      by_cases hxy : x = y
      · simpa [hxy] using ih b
      · have hne : x.toNat ≠ y.toNat := fun he => hxy (Char.toNat_inj.mp he)
        simp only [hxy, Ne.symm hxy, ↓reduceIte, decide_eq_true_eq]
        omega

theorem nameLE_antisymm {a b : List Char} (hab : nameLE a b = true) (hba : nameLE b a = true) : a = b := by
  induction a generalizing b with
  | nil =>
    cases b with
    | nil => rfl
    | cons y b => simp [nameLE] at hba
  | cons x a ih =>
    cases b with
    | nil => simp [nameLE] at hab
    | cons y b =>
      simp only [nameLE, beq_iff_eq] at hab hba
      by_cases hxy : x = y
      · subst y
        rw [if_pos rfl] at hab hba
        rw [ih hab hba]
      · rw [if_neg hxy, decide_eq_true_eq] at hab
        rw [if_neg (Ne.symm hxy), decide_eq_true_eq] at hba
        omega

@[simp] theorem keyLE_refl (a : Option (List Char)) : keyLE a a = true := by
  cases a with
  | none => rfl
  | some a => exact nameLE_refl a

theorem keyLE_trans {a b c : Option (List Char)} (hab : keyLE a b = true) (hbc : keyLE b c = true) :
    keyLE a c = true := by
  cases a <;> cases b <;> cases c <;> simp only [keyLE] at hab hbc ⊢
  all_goals try contradiction
  exact nameLE_trans hab hbc

theorem keyLE_total (a b : Option (List Char)) : keyLE a b = true ∨ keyLE b a = true := by
  cases a with
  | none => exact Or.inl rfl
  | some a =>
    cases b with
    | none => exact Or.inr rfl
    | some b => exact nameLE_total a b

theorem keyLE_antisymm {a b : Option (List Char)} (hab : keyLE a b = true) (hba : keyLE b a = true) :
    a = b := by
  cases a <;> cases b <;> simp only [keyLE] at hab hba
  · rfl
  all_goals try contradiction
  rw [nameLE_antisymm hab hba]

/-- A key comes before another if it does not come behind it or tie with it. -/
def keyLT (a b : Option (List Char)) : Prop :=
  keyLE b a = false

theorem keyLT_irrefl (a : Option (List Char)) : ¬ keyLT a a := by
  simp [keyLT]

theorem keyLE_of_keyLT {a b : Option (List Char)} (h : keyLT a b) : keyLE a b = true := by
  rcases keyLE_total a b with hab | hba
  · exact hab
  · rw [keyLT, hba] at h
    contradiction

theorem keyLT_trans {a b c : Option (List Char)} (hab : keyLT a b) (hbc : keyLT b c) : keyLT a c := by
  apply Bool.eq_false_iff.mpr
  intro hca
  have hcb := keyLE_trans hca (keyLE_of_keyLT hab)
  rw [hbc] at hcb
  contradiction

theorem le_trans (a b c : Entry) (hab : le a b = true) (hbc : le b c = true) : le a c = true :=
  keyLE_trans hab hbc

theorem le_total (a b : Entry) : (le a b || le b a) = true := by
  simpa [le] using keyLE_total a.key b.key

/-- Lists of keys are compared at the first place where they differ. -/
abbrev KeysLT : List (Option (List Char)) → List (Option (List Char)) → Prop :=
  List.Lex keyLT

theorem keysLT_irrefl (ks : List (Option (List Char))) : ¬ KeysLT ks ks :=
  List.lex_irrefl keyLT_irrefl ks

theorem keysLT_trans {a b c : List (Option (List Char))} (hab : KeysLT a b) (hbc : KeysLT b c) :
    KeysLT a c :=
  List.lex_trans keyLT_trans hab hbc

/-- Between lists of one length the order is settled before their ends. -/
theorem keysLT_append {a b : List (Option (List Char))} (h : KeysLT a b)
    (hl : a.length = b.length) (c d : List (Option (List Char))) : KeysLT (a ++ c) (b ++ d) := by
  induction h with
  | nil => simp at hl
  | rel h => exact .rel h
  | cons h ih => exact .cons (ih (by simpa using hl))

end GemOrder.Entry

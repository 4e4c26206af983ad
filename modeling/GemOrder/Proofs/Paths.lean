import GemOrder.Path
import Mathlib.Data.List.Basic
import Mathlib.Data.List.Infix

namespace GemOrder.Path

/-- A name that something in a directory can have. -/
def isName (s : String) : Bool :=
  !isIdle s && s != ".." && !s.toList.contains '/'

theorem isName_iff {s : String} :
    isName s = true ↔ isIdle s = false ∧ s ≠ ".." ∧ '/' ∉ s.toList := by
  simp [isName, and_assoc]

theorem ne_empty_of_isName {s : String} (h : isName s = true) : s ≠ "" := by
  rintro rfl
  contradiction

theorem component?_of_isName {s : String} (h : isName s = true) : component? s = some (.name s) := by
  obtain ⟨hidle, hparent, -⟩ := isName_iff.mp h
  simp [component?, hidle, hparent]

theorem same_iff {p q : Path} : p.same q = true ↔ p.components = q.components := by
  simp [same]

theorem exists_component? {part : String} (h : isIdle part = false) :
    ∃ c, component? part = some c := by
  unfold component?
  rw [h]
  by_cases hparent : part = ".." <;> simp [hparent]

theorem cut_ne_nil (cs : List Char) : cut cs ≠ [] := by
  cases cs with
  | nil => simp [cut]
  | cons c cs =>
    rw [cut]
    split
    · simp
    · cases cut cs <;> simp

theorem cut_append (a b : List Char) : cut (a ++ '/' :: b) = cut a ++ cut b := by
  induction a with
  | nil => simp [cut]
  | cons c a ih =>
    rw [List.cons_append, cut, cut, ih]
    split
    · rfl
    · obtain ⟨part, parts, hp⟩ := List.exists_cons_of_ne_nil (cut_ne_nil a)
      rw [hp, List.cons_append]
      rfl

theorem cut_of_not_mem {cs : List Char} (h : '/' ∉ cs) : cut cs = [cs] := by
  induction cs with
  | nil => rfl
  | cons c cs ih =>
    rw [List.mem_cons, not_or] at h
    simp [cut, ih h.2, Ne.symm h.1]

theorem not_mem_cut {cs part : List Char} (h : part ∈ cut cs) : '/' ∉ part := by
  induction cs generalizing part with
  | nil =>
    rw [cut, List.mem_singleton] at h
    simp [h]
  | cons c cs ih =>
    rw [cut] at h
    split at h
    · rcases List.mem_cons.mp h with rfl | h
      · simp
      · exact ih h
    · rename_i hc
      obtain ⟨first, rest, hcut⟩ := List.exists_cons_of_ne_nil (cut_ne_nil cs)
      rw [hcut] at h ih
      rcases List.mem_cons.mp h with rfl | h
      · have hc' : '/' ≠ c := fun he => hc (by simp [← he])
        simp [hc', ih List.mem_cons_self]
      · exact ih (List.mem_cons_of_mem _ h)

theorem parts_slash (a b : String) : parts ⟨a ++ "/" ++ b⟩ = parts ⟨a⟩ ++ parts ⟨b⟩ := by
  have hslash : (a ++ "/" ++ b).toList = a.toList ++ '/' :: b.toList := by simp
  rw [parts, hslash, cut_append, List.map_append]
  rfl

theorem parts_of_not_mem {s : String} (h : '/' ∉ s.toList) : parts ⟨s⟩ = [s] := by
  simp [parts, cut_of_not_mem h]

theorem parts_ne_nil (p : Path) : p.parts ≠ [] := by
  simp [parts, cut_ne_nil]

theorem not_mem_of_mem_parts {p : Path} {s : String} (h : s ∈ p.parts) : '/' ∉ s.toList := by
  obtain ⟨part, hpart, rfl⟩ := List.mem_map.mp h
  simpa using not_mem_cut hpart

theorem parts_intercalate {ps : List String} (hne : ps ≠ []) (h : ∀ s ∈ ps, '/' ∉ s.toList) :
    parts ⟨"/".intercalate ps⟩ = ps := by
  induction ps with
  | nil => exact absurd rfl hne
  | cons s ps ih =>
    have hs : parts ⟨s⟩ = [s] := parts_of_not_mem (h s (by simp))
    cases ps with
    | nil => rw [String.intercalate_singleton, hs]
    | cons t ps =>
      rw [String.intercalate_cons_cons, parts_slash, hs, ih (by simp) fun u hu => h u (by simp [hu])]
      rfl

/-- The components that the first part of a path stands for, if the path is not empty. -/
def opening (first : String) : List Component :=
  if first == "." then [.here] else if first == "" then [.root] else (component? first).toList

theorem opening_ne_nil (first : String) : opening first ≠ [] := by
  unfold opening
  split
  · simp
  · split
    · simp
    · rename_i hdot hempty
      have hidle : isIdle first = false := by simp_all [isIdle]
      obtain ⟨c, hc⟩ := exists_component? hidle
      simp [hc]

theorem opening_of_isName {s : String} (h : isName s = true) : opening s = [.name s] := by
  have hidle : s ≠ "" ∧ s ≠ "." := by simpa [isIdle] using (isName_iff.mp h).1
  simp [opening, hidle, component?_of_isName h]

@[simp] theorem components_empty : components ⟨""⟩ = [] := by
  decide

theorem isAbsolute_iff_first {p : Path} (hne : p.text ≠ "") {first : String} {rest : List String}
    (hp : p.parts = first :: rest) : p.isAbsolute = true ↔ first = "" := by
  unfold parts at hp
  unfold isAbsolute
  cases hcs : p.text.toList with
  | nil => exact absurd (String.toList_eq_nil_iff.mp hcs) hne
  | cons c cs =>
    rw [hcs, cut] at hp
    obtain ⟨part, parts, hcut⟩ := List.exists_cons_of_ne_nil (cut_ne_nil cs)
    by_cases hc : c = '/'
    · simp only [beq_iff_eq, hc, if_true, List.map_cons] at hp
      have hfirst : first = "" := (List.cons.inj hp).1.symm
      simp [hc, hfirst]
    · simp only [beq_iff_eq, hc, if_false, hcut, List.map_cons] at hp
      have hfirst : first ≠ "" := by
        rw [← (List.cons.inj hp).1]
        simp
      simp [hc, hfirst]

theorem components_eq {p : Path} (hne : p.text ≠ "") {first : String} {rest : List String}
    (hp : p.parts = first :: rest) : p.components = opening first ++ rest.filterMap component? := by
  have habs := isAbsolute_iff_first hne hp
  rw [components, hp]
  unfold opening
  by_cases hempty : first = ""
  · simp [hempty, habs.mpr hempty]
  · simp [hempty]

/-- What comes behind a slash adds the components of its parts. -/
theorem components_slash (a b : String) :
    components ⟨a ++ "/" ++ b⟩ = components ⟨a ++ "/"⟩ ++ (parts ⟨b⟩).filterMap component? := by
  have hparts : parts ⟨a ++ "/"⟩ = parts ⟨a⟩ ++ [""] := by
    have h := parts_slash a ""
    rw [String.append_empty] at h
    exact h
  obtain ⟨first, rest, hfirst⟩ := List.exists_cons_of_ne_nil (parts_ne_nil ⟨a⟩)
  have hslash : a ++ "/" ≠ "" := by simp
  have hmore : a ++ "/" ++ b ≠ "" := by simp
  rw [components_eq hmore (by rw [parts_slash, hfirst, List.cons_append]),
    components_eq hslash (by rw [hparts, hfirst, List.cons_append])]
  simp [component?, isIdle]

theorem components_slash_end {a : String} (h : a ≠ "") : components ⟨a ++ "/"⟩ = components ⟨a⟩ := by
  obtain ⟨first, rest, hfirst⟩ := List.exists_cons_of_ne_nil (parts_ne_nil ⟨a⟩)
  have hparts : parts ⟨a ++ "/"⟩ = first :: (rest ++ [""]) := by
    have hs := parts_slash a ""
    rw [String.append_empty] at hs
    rw [hs, hfirst]
    rfl
  rw [components_eq (by simp) hparts, components_eq h hfirst]
  simp [component?, isIdle]

/-- A relative path is joined behind a slash, unless it comes to stand alone. -/
theorem join_cases (p : Path) {name : String} (h : isAbsolute ⟨name⟩ = false) :
    (p.text = "" ∧ p.join name = ⟨name⟩) ∨
      (∃ a, p.text = a ++ "/" ∧ p.join name = ⟨a ++ "/" ++ name⟩) ∨
      (p.text ≠ "" ∧ p.join name = ⟨p.text ++ "/" ++ name⟩) := by
  unfold join
  rw [h]
  cases hlast : p.text.toList.getLast? with
  | none =>
    left
    rw [List.getLast?_eq_none_iff, String.toList_eq_nil_iff] at hlast
    exact ⟨hlast, rfl⟩
  | some c =>
    right
    obtain ⟨cs, hcs⟩ := List.getLast?_eq_some_iff.mp hlast
    by_cases hc : c = '/'
    · left
      have htext : p.text = String.ofList cs ++ "/" := by
        rw [← String.toList_inj, hcs, hc]
        simp
      exact ⟨String.ofList cs, htext, by simp [hc, htext]⟩
    · right
      refine ⟨fun he => ?_, by simp [hc]⟩
      simp [he] at hcs

theorem isAbsolute_of_isName {name : String} (h : isName name = true) :
    isAbsolute ⟨name⟩ = false := by
  have hslash := (isName_iff.mp h).2.2
  unfold isAbsolute
  cases hcs : name.toList with
  | nil => rfl
  | cons c cs =>
    rw [hcs, List.mem_cons, not_or] at hslash
    simpa using Ne.symm hslash.1

theorem components_join (p : Path) {name : String} (h : isName name = true) :
    (p.join name).components = p.components ++ [.name name] := by
  have hparts : (parts ⟨name⟩).filterMap component? = [.name name] := by
    rw [parts_of_not_mem (isName_iff.mp h).2.2]
    simp [component?_of_isName h]
  obtain ⟨hp, hj⟩ | ⟨a, hp, hj⟩ | ⟨hp, hj⟩ := p.join_cases (isAbsolute_of_isName h)
  · have hempty : p.components = [] := by
      rw [show p = ⟨""⟩ from congrArg mk hp, components_empty]
    rw [hj, hempty, components_eq (ne_empty_of_isName h) (parts_of_not_mem (isName_iff.mp h).2.2),
      opening_of_isName h]
    rfl
  · rw [hj, components_slash, hparts, show p = ⟨a ++ "/"⟩ from congrArg mk hp]
  · rw [hj, components_slash, hparts, components_slash_end hp]

theorem join_inj {p : Path} {s s' : String} (hs : isName s = true) (hs' : isName s' = true)
    (h : (p.join s).components = (p.join s').components) : s = s' := by
  rw [components_join p hs, components_join p hs'] at h
  exact Component.name.inj (List.cons.inj (List.append_cancel_left h)).1

/-- A directory that lies above another one, as far as their spelling tells. -/
def IsAbove (p q : Path) : Prop :=
  p.components <+: q.components ∧ p.components ≠ q.components

theorem IsAbove.asymm {p q : Path} (h : p.IsAbove q) : ¬ q.IsAbove p :=
  fun h' => h.2 (h.1.eq_of_length_le h'.1.length_le)

section Parents

theorem slash_skip {first part : String} {r : List String}
    (h : ∀ s ∈ first :: part :: r, '/' ∉ s.toList) : ∀ s ∈ first :: r, '/' ∉ s.toList := by
  intro s hs
  exact h s (by rcases List.mem_cons.mp hs with rfl | hs <;> simp [*])

theorem parts_build {first : String} {xs : List String} (h : ∀ s ∈ first :: xs, '/' ∉ s.toList) :
    (build first xs).parts = first :: xs ∨
      (first = "" ∧ xs = [] ∧ (build first xs).parts = ["", ""]) := by
  unfold build
  cases xs with
  | nil =>
    by_cases hfirst : first = ""
    · right
      subst hfirst
      exact ⟨rfl, rfl, by decide⟩
    · left
      simpa [hfirst] using parts_of_not_mem (h first (by simp))
  | cons x xs => exact Or.inl (parts_intercalate (by simp) h)

theorem build_text_ne (first : String) (xs : List String) : (build first xs).text ≠ "" := by
  unfold build
  cases xs with
  | nil => by_cases hfirst : first = "" <;> simp [hfirst]
  | cons x xs => simp [String.intercalate_cons_cons]

theorem components_build {first : String} {xs : List String} (h : ∀ s ∈ first :: xs, '/' ∉ s.toList) :
    (build first xs).components = opening first ++ xs.filterMap component? := by
  obtain hp | ⟨rfl, rfl, hp⟩ := parts_build h
  · exact components_eq (build_text_ne first xs) hp
  · rw [components_eq (build_text_ne "" []) hp]
    simp [component?, isIdle]

theorem above_dropWhile (first : String) (r : List String) :
    above first (r.dropWhile isIdle) = above first r := by
  induction r with
  | nil => rfl
  | cons part r ih =>
    rw [List.dropWhile_cons]
    split
    · rename_i hidle
      rw [ih, above, if_pos hidle]
    · rfl

theorem filterMap_dropWhile (r : List String) :
    (r.dropWhile isIdle).reverse.filterMap component? = r.reverse.filterMap component? := by
  induction r with
  | nil => rfl
  | cons part r ih =>
    rw [List.dropWhile_cons]
    split
    · rename_i hidle
      simp [ih, component?, hidle]
    · rfl

theorem mem_dropWhile_reverse {first : String} {r : List String} (h : ∀ s ∈ first :: r, '/' ∉ s.toList) :
    ∀ s ∈ first :: (r.dropWhile isIdle).reverse, '/' ∉ s.toList := by
  intro s hs
  rcases List.mem_cons.mp hs with rfl | hs
  · exact h s (by simp)
  · exact h s (List.mem_cons_of_mem _ ((List.dropWhile_sublist _).subset (List.mem_reverse.mp hs)))

/-- The paths above one have ever fewer of its components. -/
theorem above_chain {first : String} {r : List String} (h : ∀ s ∈ first :: r, '/' ∉ s.toList) :
    (∀ d ∈ above first r, d.components <+: opening first ++ r.reverse.filterMap component? ∧
        d.components ≠ opening first ++ r.reverse.filterMap component?) ∧
      (above first r).Pairwise fun d e => e.IsAbove d := by
  induction r with
  | nil =>
    unfold above
    split
    · simp
    · simp [Ne.symm (opening_ne_nil first)]
  | cons part r ih =>
    have hr := slash_skip h
    obtain ⟨hfront, hpairwise⟩ := ih hr
    rw [above]
    split
    · rename_i hidle
      have hsame : (part :: r).reverse.filterMap component? = r.reverse.filterMap component? := by
        simp [component?, hidle]
      rw [hsame]
      exact ⟨hfront, hpairwise⟩
    · rename_i hidle
      have hbuild : (build first (r.dropWhile isIdle).reverse).components =
          opening first ++ r.reverse.filterMap component? := by
        rw [components_build (mem_dropWhile_reverse hr), filterMap_dropWhile]
      obtain ⟨c, hc⟩ := exists_component? (Bool.eq_false_iff.mpr hidle)
      have hmore : opening first ++ (part :: r).reverse.filterMap component? =
          opening first ++ r.reverse.filterMap component? ++ [c] := by
        simp [hc]
      rw [hmore]
      refine ⟨?_, List.pairwise_cons.mpr ⟨?_, hpairwise⟩⟩
      · intro d hd
        rcases List.mem_cons.mp hd with rfl | hd
        · rw [hbuild]
          exact ⟨List.prefix_append _ _, by simp⟩
        · obtain ⟨hp, -⟩ := hfront d hd
          refine ⟨hp.trans (List.prefix_append _ _), fun he => ?_⟩
          have hlen := hp.length_le
          rw [he, List.length_append, List.length_singleton] at hlen
          omega
      · intro d hd
        obtain ⟨hp, hne⟩ := hfront d hd
        exact ⟨hbuild ▸ hp, hbuild ▸ hne⟩

theorem parents_eq {p : Path} {first : String} {rest : List String} (hp : p.parts = first :: rest) :
    p.parents = above first rest.reverse := by
  rw [parents, hp]

@[simp] theorem parents_empty : parents ⟨""⟩ = [] := by
  decide

theorem reverse_parts {p : Path} {first : String} {rest : List String} (hp : p.parts = first :: rest) :
    ∀ s ∈ first :: rest.reverse, '/' ∉ s.toList := by
  intro s hs
  apply not_mem_of_mem_parts (p := p)
  rw [hp]
  simpa using hs

/-- A path lies below each path above it, and these lie below each other. -/
theorem ancestors_chain (p : Path) : p.ancestors.Pairwise fun d e => e.IsAbove d := by
  by_cases hne : p.text = ""
  · rw [show p = ⟨""⟩ from congrArg mk hne, ancestors, parents_empty]
    exact List.pairwise_singleton _ _
  · obtain ⟨first, rest, hp⟩ := List.exists_cons_of_ne_nil p.parts_ne_nil
    obtain ⟨hfront, hpairwise⟩ := above_chain (reverse_parts hp)
    rw [ancestors, parents_eq hp, List.pairwise_cons]
    refine ⟨fun d hd => ?_, hpairwise⟩
    have h := hfront d hd
    rwa [List.reverse_reverse, ← components_eq hne hp] at h

theorem parents_build {first : String} {xs : List String} (h : ∀ s ∈ first :: xs, '/' ∉ s.toList) :
    (build first xs).parents = above first xs.reverse := by
  obtain hp | ⟨rfl, rfl, hp⟩ := parts_build h
  · exact parents_eq hp
  · rw [parents_eq hp]
    decide

theorem parents_of_above {first : String} {r : List String} (h : ∀ s ∈ first :: r, '/' ∉ s.toList)
    {d : Path} {ds : List Path} (hd : above first r = d :: ds) : d.parents = ds := by
  induction r with
  | nil =>
    unfold above at hd
    split at hd
    · contradiction
    · obtain ⟨rfl, rfl⟩ := List.cons.inj hd
      exact parents_empty
  | cons part r ih =>
    have hr := slash_skip h
    rw [above] at hd
    split at hd
    · exact ih hr hd
    · obtain ⟨rfl, rfl⟩ := List.cons.inj hd
      rw [parents_build (mem_dropWhile_reverse hr), List.reverse_reverse, above_dropWhile]

/-- The nearest path above a path, with all above it, is all that is above the path. -/
theorem ancestors_parent {p d : Path} (h : p.parent? = some d) : d.ancestors = p.parents := by
  obtain ⟨first, rest, hp⟩ := List.exists_cons_of_ne_nil p.parts_ne_nil
  obtain ⟨ds, hds⟩ := List.head?_eq_some_iff.mp h
  rw [parents_eq hp] at hds ⊢
  rw [ancestors, parents_of_above (reverse_parts hp) hds, hds]

end Parents

end GemOrder.Path

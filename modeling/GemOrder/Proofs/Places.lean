import GemOrder.World
import Mathlib.Data.List.Basic

namespace GemOrder

/-- What is seen at a place without going further; files are seen through a function of what they
hold. -/
inductive View (α : Type) where
  | file (a : α)
  | link (target : String)
  | directory (names : List String)

namespace Node

variable {α : Type}

def view (f : Content → α) : Node → View α
  | .file c => .file (f c)
  | .link target => .link target
  | .directory entries => .directory (entries.map Prod.fst)

/-- What looks alike is of the same kind. -/
theorem view_cases {f : Content → α} {n n' : Option Node} (h : n'.map (view f) = n.map (view f)) :
    (n = none ∧ n' = none) ∨
      (∃ c c', n = some (.file c) ∧ n' = some (.file c') ∧ f c' = f c) ∨
      (∃ target, n = some (.link target) ∧ n' = some (.link target)) ∨
      ∃ entries entries', n = some (.directory entries) ∧ n' = some (.directory entries') := by
  cases n with
  | none => exact Or.inl ⟨rfl, Option.map_eq_none_iff.mp h⟩
  | some n =>
    obtain ⟨n', rfl, hview⟩ := Option.map_eq_some_iff.mp h
    cases n <;> cases n' <;> simp_all [view]

theorem lookup_replace (entries : List (String × Node)) (name other : String) (n : Node) :
    (entries.map fun entry => if entry.1 == name then (name, n) else entry).lookup other =
      if other = name then (entries.lookup name).map fun _ => n else entries.lookup other := by
  induction entries with
  | nil => simp
  | cons entry entries ih =>
    obtain ⟨key, m⟩ := entry
    rw [List.map_cons]
    by_cases hk : key = name
    · subst hk
      by_cases ho : other = key
      · simp [ho]
      · have hne : (other == key) = false := by simpa using ho
        simpa [ho, hne, List.lookup_cons] using ih
    · have hk' : (name == key) = false := by simpa using Ne.symm hk
      by_cases ho : other = key
      · simp [ho, hk]
      · have hne : (other == key) = false := by simpa using ho
        simpa [hk, hk', hne, List.lookup_cons] using ih

@[simp] theorem lookup_enter (entries : List (String × Node)) (name other : String) (n : Node) :
    (enter entries name n).lookup other = if other = name then some n else entries.lookup other := by
  unfold enter
  split
  · rename_i h
    obtain ⟨m, hm⟩ := Option.isSome_iff_exists.mp h
    rw [lookup_replace, hm, Option.map_some]
  · rename_i h
    rw [List.lookup_append]
    by_cases ho : other = name
    · subst ho
      simp [Option.not_isSome_iff_eq_none.mp h]
    · have hne : (other == name) = false := by simpa using ho
      simp [ho, hne, List.lookup_cons]

variable {entries : List (String × Node)} {name other : String}

theorem enter_of_isSome (h : (entries.lookup name).isSome = true) (n : Node) :
    enter entries name n = entries.map fun entry => if entry.1 == name then (name, n) else entry :=
  if_pos h

theorem isSome_lookup_enter (h : (entries.lookup other).isSome = true) (n : Node) :
    ((enter entries name n).lookup other).isSome = true := by
  rw [lookup_enter]
  split
  · rfl
  · exact h

/-- Replacing an entry changes no names. -/
theorem enter_names (h : (entries.lookup name).isSome = true) (n : Node) :
    (enter entries name n).map Prod.fst = entries.map Prod.fst := by
  rw [enter_of_isSome h, List.map_map]
  apply List.map_congr_left
  intro entry _
  by_cases he : entry.1 = name <;> simp [he]

theorem enter_enter (h : (entries.lookup name).isSome = true) (m n : Node) :
    enter (enter entries name m) name n = enter entries name n := by
  rw [enter_of_isSome (isSome_lookup_enter h m), enter_of_isSome h, enter_of_isSome h, List.map_map]
  apply List.map_congr_left
  intro entry _
  by_cases he : entry.1 = name <;> simp [he]

theorem enter_comm (h : (entries.lookup name).isSome = true) (h' : (entries.lookup other).isSome = true)
    (hne : name ≠ other) (m n : Node) :
    enter (enter entries name m) other n = enter (enter entries other n) name m := by
  rw [enter_of_isSome (isSome_lookup_enter h' m), enter_of_isSome (isSome_lookup_enter h n),
    enter_of_isSome h, enter_of_isSome h', List.map_map, List.map_map]
  apply List.map_congr_left
  intro entry _
  by_cases he : entry.1 = name
  · simp [he, hne]
  · by_cases ho : entry.1 = other
    · simp [ho, Ne.symm hne]
    · simp [he, ho]

@[simp] theorem find?_directory (entries : List (String × Node)) (name : String) (rest : Location) :
    (Node.directory entries).find? (name :: rest) = (entries.lookup name).bind (·.find? rest) := by
  rw [find?]
  cases entries.lookup name <;> rfl

theorem find?_file (c : Content) {place : Location} {n : Node}
    (h : (Node.file c).find? place = some n) : place = [] ∧ n = .file c := by
  cases place with
  | nil => exact ⟨rfl, (Option.some.inj h).symm⟩
  | cons name rest => simp [find?] at h

@[simp] theorem find?_append (n : Node) (place rest : Location) :
    n.find? (place ++ rest) = (n.find? place).bind (·.find? rest) := by
  induction place generalizing n with
  | nil => rw [find?]; rfl
  | cons name place ih =>
    cases n with
    | file c => simp [find?]
    | link target => simp [find?]
    | directory entries =>
      rw [List.cons_append, find?_directory, find?_directory]
      cases entries.lookup name with
      | none => rfl
      | some n => exact ih n

theorem put_directory (n : Node) (entries : List (String × Node)) (name : String) (rest : Location) :
    put n (.directory entries) (name :: rest) =
      .directory (enter entries name (put n ((entries.lookup name).getD (.directory [])) rest)) := by
  rw [put]

/-- On the way to a place stand directories. -/
theorem find?_cons {root n : Node} {name : String} {rest : Location}
    (h : root.find? (name :: rest) = some n) :
    ∃ entries m, root = .directory entries ∧ entries.lookup name = some m ∧ m.find? rest = some n := by
  cases root with
  | file c => simp [find?] at h
  | link target => simp [find?] at h
  | directory entries =>
    rw [find?_directory] at h
    obtain ⟨m, hm, hn⟩ := Option.bind_eq_some_iff.mp h
    exact ⟨entries, m, rfl, hm, hn⟩

/-- A new file in the place of an old one is all that is seen to change. -/
theorem view_put {root : Node} {place : Location} {c : Content} (h : root.find? place = some (.file c))
    (c' : Content) (f : Content → α) (q : Location) :
    ((put (.file c') root place).find? q).map (view f) =
      if q = place then some (.file (f c')) else (root.find? q).map (view f) := by
  induction place generalizing root q with
  | nil =>
    rw [find?] at h
    obtain rfl := Option.some.inj h
    cases q with
    | nil => simp [put, find?, view]
    | cons name rest => simp [put, find?]
  | cons name place ih =>
    obtain ⟨entries, m, rfl, hm, hplace⟩ := find?_cons h
    have hsome : (entries.lookup name).isSome = true := by simp [hm]
    rw [put_directory, hm, Option.getD_some]
    cases q with
    | nil => simp [find?, view, enter_names hsome]
    | cons other rest =>
      rw [find?_directory, find?_directory, lookup_enter]
      by_cases ho : other = name
      · subst ho
        rw [if_pos rfl, hm, Option.bind_some, Option.bind_some, ih hplace]
        simp
      · simp [ho]

theorem find?_put {root n : Node} {place : Location} (h : root.find? place = some n) (n' : Node) :
    (put n' root place).find? place = some n' := by
  induction place generalizing root with
  | nil => rw [put, find?]
  | cons name place ih =>
    obtain ⟨entries, m, rfl, hm, hplace⟩ := find?_cons h
    rw [put_directory, hm, Option.getD_some, find?_directory, lookup_enter, if_pos rfl,
      Option.bind_some, ih hplace]

/-- Two files can be replaced in either order. -/
theorem put_comm {root : Node} {place place' : Location} {c c' : Content}
    (h : root.find? place = some (.file c)) (h' : root.find? place' = some (.file c'))
    (hne : place ≠ place') (m n : Node) :
    put n (put m root place) place' = put m (put n root place') place := by
  induction place generalizing root place' with
  | nil =>
    rw [find?] at h
    obtain rfl := Option.some.inj h
    exact absurd (find?_file c h').1.symm hne
  | cons name place ih =>
    cases place' with
    | nil =>
      rw [find?] at h'
      obtain rfl := Option.some.inj h'
      exact absurd (find?_file c' h).1 (List.cons_ne_nil _ _)
    | cons other place' =>
      obtain ⟨entries, k, rfl, hk, hplace⟩ := find?_cons h
      obtain ⟨_, k', he, hk', hplace'⟩ := find?_cons h'
      obtain rfl := Node.directory.inj he
      have hsome : (entries.lookup name).isSome = true := by simp [hk]
      have hsome' : (entries.lookup other).isSome = true := by simp [hk']
      simp only [put_directory, lookup_enter, hk, hk', Option.getD_some]
      by_cases ho : other = name
      · subst ho
        obtain rfl := Option.some.inj (hk.symm.trans hk')
        have hrest : place ≠ place' := fun he => hne (by rw [he])
        simp [enter_enter hsome, ih hplace hplace' hrest]
      · have hno : name ≠ other := Ne.symm ho
        simp [ho, hno, enter_comm hsome hsome' hno]

end Node

namespace Files

/-- Trees with the same directories and links and with files at the same places. -/
def SameShape (t t' : Files) : Prop :=
  ∀ q, (t'.find? q).map (Node.view fun _ => ()) = (t.find? q).map (Node.view fun _ => ())

variable {t t' : Files}

theorem SameShape.lookup (h : t.SameShape t') {place : Location} {entries entries' : List (String × Node)}
    (hp : t.find? place = some (.directory entries)) (hp' : t'.find? place = some (.directory entries'))
    (name : String) :
    (entries'.lookup name).map (Node.view fun _ => ()) =
      (entries.lookup name).map (Node.view fun _ => ()) := by
  have hstep {s : Files} {es : List (String × Node)} (hs : s.find? place = some (.directory es)) :
      s.find? (place ++ [name]) = es.lookup name := by
    rw [find?, Node.find?_append, show s.root.find? place = some (.directory es) from hs,
      Option.bind_some, Node.find?_directory]
    cases es.lookup name <;> rfl
  rw [← hstep hp, ← hstep hp', h]

/-- Going along names comes to the same place in trees of the same shape. -/
theorem SameShape.stroll (h : t.SameShape t')
    (missing follow : Location → List String → Except IoError Location) (place : Location)
    (names : List String) : t'.stroll missing follow place names = t.stroll missing follow place names := by
  induction names generalizing place with
  | nil => rw [Files.stroll, Files.stroll]
  | cons name names ih =>
    rw [Files.stroll, Files.stroll]
    obtain ⟨hp, hp'⟩ | ⟨c, c', hp, hp', -⟩ | ⟨target, hp, hp'⟩ | ⟨entries, entries', hp, hp'⟩ :=
      Node.view_cases (h place)
    · rw [hp, hp']
    · rw [hp, hp']
    · rw [hp, hp']
    · rw [hp, hp']
      simp only [ih]
      obtain ⟨hn, hn'⟩ | ⟨c, c', hn, hn', -⟩ | ⟨target, hn, hn'⟩ | ⟨es, es', hn, hn'⟩ :=
        Node.view_cases (h.lookup hp hp' name)
      all_goals simp only [hn, hn']

theorem SameShape.resolve (h : t.SameShape t')
    (missing : Location → List String → Except IoError Location) (links : Nat) (place : Location)
    (names : List String) :
    t'.resolve missing links place names = t.resolve missing links place names := by
  induction links generalizing place names with
  | zero => rw [Files.resolve, Files.resolve, h.stroll]
  | succ links ih =>
    rw [Files.resolve, Files.resolve, h.stroll]
    congr
    funext p ns
    exact ih p ns

theorem sameShape_put {place : Location} {c : Content} (h : t.find? place = some (.file c))
    (c' : Content) : t.SameShape (t.put place (.file c')) := by
  intro q
  rw [put, find?, Node.view_put h]
  split
  · rename_i hq
    rw [hq, h]
    rfl
  · rfl

end Files

namespace World

variable {w : World} {p : Path} {place : Location}

theorem writeText_of_locate (h : w.locate p = .ok place) (text : String) :
    w.writeText p text = { w with files := w.files.put place (.file (.text text)) } := by
  rw [writeText, h]

/-- What a path can be read from is a file. -/
theorem content_eq_ok_iff {c : Content} :
    w.content p = .ok c ↔ ∃ place, w.locate p = .ok place ∧ w.files.find? place = some (.file c) := by
  unfold content
  cases w.locate p with
  | error e => simp [bind, Except.bind]
  | ok place =>
    simp only [bind, Except.bind, Except.ok.injEq, exists_eq_left']
    cases w.files.find? place with
    | none => simp
    | some n => cases n <;> simp

theorem isFile_iff : w.isFile p = true ↔ ∃ c, w.content p = .ok c := by
  simp only [content_eq_ok_iff]
  unfold isFile node?
  cases w.locate p with
  | error e => simp [Except.toOption]
  | ok place =>
    simp only [Except.toOption, Option.bind_some, Except.ok.injEq, exists_eq_left']
    cases w.files.find? place with
    | none => simp
    | some n => cases n <;> simp

theorem content_congr {w' : World} {q : Path} (hl : w'.locate q = w.locate q)
    (hv : ∀ place, w.locate q = .ok place →
      (w'.files.find? place).map (Node.view id) = (w.files.find? place).map (Node.view id)) :
    w'.content q = w.content q := by
  unfold content
  rw [hl]
  cases hq : w.locate q with
  | error e => rfl
  | ok place =>
    simp only [bind, Except.bind]
    obtain ⟨hn, hn'⟩ | ⟨c, c', hn, hn', hc⟩ | ⟨target, hn, hn'⟩ | ⟨es, es', hn, hn'⟩ :=
      Node.view_cases (hv place hq)
    · rw [hn, hn']
    · rw [hn, hn', show c' = c from hc]
    · rw [hn, hn']
    · rw [hn, hn']

section Write

variable (h : w.isFile p = true) (text : String)

include h

/-- A path leads to the same place after something was written to a file. -/
theorem locate_writeText (q : Path) : (w.writeText p text).locate q = w.locate q := by
  obtain ⟨c, hc⟩ := isFile_iff.mp h
  obtain ⟨place, hp, hf⟩ := content_eq_ok_iff.mp hc
  rw [writeText_of_locate hp, locate, locate, (Files.sameShape_put hf _).resolve]
  rfl

theorem content_writeText : (w.writeText p text).content p = .ok (.text text) := by
  obtain ⟨c, hc⟩ := isFile_iff.mp h
  obtain ⟨place, hp, hf⟩ := content_eq_ok_iff.mp hc
  refine content_eq_ok_iff.mpr ⟨place, (locate_writeText h text p).trans hp, ?_⟩
  rw [writeText_of_locate hp]
  exact Node.find?_put hf _

theorem content_writeText_of_ne {q : Path} (hne : w.locate q ≠ w.locate p) :
    (w.writeText p text).content q = w.content q := by
  obtain ⟨c, hc⟩ := isFile_iff.mp h
  obtain ⟨place, hp, hf⟩ := content_eq_ok_iff.mp hc
  apply content_congr (locate_writeText h text q)
  intro place' hq
  have hplace : place' ≠ place := fun he => hne (by rw [hq, hp, he])
  have hview := Node.view_put hf (.text text) id place'
  rw [if_neg hplace] at hview
  rw [writeText_of_locate hp]
  exact hview

theorem isFile_writeText {q : Path} (hq : w.isFile q = true) : (w.writeText p text).isFile q = true := by
  by_cases hsame : w.locate q = w.locate p
  · obtain ⟨place, hp, hf⟩ := content_eq_ok_iff.mp (content_writeText h text)
    rw [locate_writeText h] at hp
    refine isFile_iff.mpr ⟨.text text, content_eq_ok_iff.mpr ⟨place, ?_, hf⟩⟩
    rw [locate_writeText h, hsame, hp]
  · obtain ⟨c, hc⟩ := isFile_iff.mp hq
    exact isFile_iff.mpr ⟨c, (content_writeText_of_ne h text hsame).trans hc⟩

/-- Writes to two files can be made in either order. -/
theorem writeText_comm {q : Path} (hq : w.isFile q = true) (hne : w.locate p ≠ w.locate q)
    (text' : String) :
    (w.writeText p text).writeText q text' = (w.writeText q text').writeText p text := by
  obtain ⟨c, hc⟩ := isFile_iff.mp h
  obtain ⟨place, hp, hf⟩ := content_eq_ok_iff.mp hc
  obtain ⟨c', hc'⟩ := isFile_iff.mp hq
  obtain ⟨place', hp', hf'⟩ := content_eq_ok_iff.mp hc'
  have hplace : place ≠ place' := fun he => hne (by rw [hp, hp', he])
  rw [writeText_of_locate ((locate_writeText h text q).trans hp'),
    writeText_of_locate ((locate_writeText hq text' p).trans hp), writeText_of_locate hp,
    writeText_of_locate hp']
  simp only [Files.put, Node.put_comm hf hf' hplace]

end Write

end World

end GemOrder

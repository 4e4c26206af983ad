import GemOrder.Proofs.Paths
import GemOrder.Proofs.Places

namespace GemOrder

namespace Node

mutual

/-- Whether the names in each directory are different ones that names can be. -/
def isProper : Node → Bool
  | .file _ => true
  | .link _ => true
  | .directory entries => decide (entries.map Prod.fst).Nodup && areProper entries

def areProper : List (String × Node) → Bool
  | [] => true
  | (name, n) :: rest => Path.isName name && isProper n && areProper rest

end

theorem areProper_mem {entries : List (String × Node)} (h : areProper entries = true)
    {entry : String × Node} (he : entry ∈ entries) :
    Path.isName entry.1 = true ∧ entry.2.isProper = true := by
  induction entries with
  | nil => contradiction
  | cons first rest ih =>
    obtain ⟨name, n⟩ := first
    simp only [areProper, Bool.and_eq_true] at h
    rcases List.mem_cons.mp he with rfl | he
    · exact h.1
    · exact ih h.2 he

theorem isProper_directory {entries : List (String × Node)} (h : (directory entries).isProper = true) :
    (entries.map Prod.fst).Nodup ∧
      ∀ entry ∈ entries, Path.isName entry.1 = true ∧ entry.2.isProper = true := by
  simp only [isProper, Bool.and_eq_true, decide_eq_true_eq] at h
  exact ⟨h.1, fun entry he => areProper_mem h.2 he⟩

theorem mem_of_lookup {entries : List (String × Node)} {name : String} {n : Node}
    (h : entries.lookup name = some n) : (name, n) ∈ entries := by
  obtain ⟨front, back, rfl, -⟩ := List.lookup_eq_some_iff.mp h
  simp

/-- What is found in a proper tree is proper, and along names that names can be. -/
theorem isProper_find? {root n : Node} {place : Location} (h : root.isProper = true)
    (hn : root.find? place = some n) : n.isProper = true ∧ ∀ s ∈ place, Path.isName s = true := by
  induction place generalizing root with
  | nil =>
    rw [find?] at hn
    obtain rfl := Option.some.inj hn
    exact ⟨h, by simp⟩
  | cons name place ih =>
    obtain ⟨entries, m, rfl, hm, hrest⟩ := find?_cons hn
    obtain ⟨hname, hproper⟩ := (isProper_directory h).2 _ (mem_of_lookup hm)
    obtain ⟨hn', hplace⟩ := ih hproper hrest
    refine ⟨hn', fun s hs => ?_⟩
    rcases List.mem_cons.mp hs with rfl | hs
    · exact hname
    · exact hplace s hs

end Node

/-- The last of some names stands for a component. -/
def EndsInName (names : List String) : Prop :=
  ∃ front last, names = front ++ [last] ∧ Path.isIdle last = false

theorem EndsInName.append {names : List String} (h : EndsInName names) (front : List String) :
    EndsInName (front ++ names) := by
  obtain ⟨before, last, rfl, hlast⟩ := h
  exact ⟨front ++ before, last, by simp, hlast⟩

theorem EndsInName.tail {name : String} {names : List String} (h : EndsInName (name :: names))
    (hne : names ≠ []) : EndsInName names := by
  obtain ⟨front, last, hfront, hlast⟩ := h
  cases front with
  | nil => exact absurd (List.cons.inj hfront).2 hne
  | cons x front => exact ⟨front, last, (List.cons.inj hfront).2, hlast⟩

/-- The names that stand for components. -/
def busy (names : List String) : List String :=
  names.filter fun name => !Path.isIdle name

@[simp] theorem busy_append (names names' : List String) : busy (names ++ names') = busy names ++ busy names' :=
  List.filter_append ..

theorem busy_busy (names : List String) : busy (busy names) = busy names := by
  simp [busy]

theorem EndsInName.busy {names : List String} (h : EndsInName names) : EndsInName (busy names) := by
  obtain ⟨front, last, rfl, hlast⟩ := h
  exact ⟨GemOrder.busy front, last, by simp [GemOrder.busy, hlast], hlast⟩

namespace Files

variable {t : Files}

theorem stroll_cons_of_not_directory {place : Location} (h : t.isDirectory place = false)
    (missing follow : Location → List String → Except IoError Location) (name : String)
    (names : List String) : t.stroll missing follow place (name :: names) = .error .notDirectory := by
  rw [stroll]
  unfold isDirectory at h
  split
  · rename_i entries hp
    simp [hp] at h
  · rfl

theorem stroll_busy {follow : Location → List String → Except IoError Location}
    (hfollow : ∀ place front names, EndsInName names →
      follow place (front ++ names) = follow place (front ++ busy names))
    {names : List String} (h : EndsInName names) (place : Location) :
    t.stroll (fun _ _ => .error .notFound) follow place names =
      t.stroll (fun _ _ => .error .notFound) follow place (busy names) := by
  induction names generalizing place with
  | nil =>
    obtain ⟨front, last, hfront, -⟩ := h
    simp at hfront
  | cons name names ih =>
    by_cases hne : names = []
    · subst hne
      obtain ⟨front, last, hfront, hlast⟩ := h
      obtain ⟨rfl, rfl⟩ : name = last ∧ front = [] := by
        cases front with
        | nil => exact ⟨(List.cons.inj hfront).1, rfl⟩
        | cons x front => simp at hfront
      simp [busy, hlast]
    · have htail := h.tail hne
      by_cases hidle : Path.isIdle name = true
      · have hbusy : busy (name :: names) = busy names := by simp [busy, hidle]
        rw [hbusy]
        cases hdir : t.isDirectory place with
        | false =>
          -- an idle part does ask for a directory, but so does the name behind it
          obtain ⟨front, last, hlast, -⟩ := htail.busy
          obtain ⟨x, xs, hx⟩ := List.exists_cons_of_ne_nil (l := busy names) (by simp [hlast])
          rw [hx, stroll_cons_of_not_directory hdir, stroll_cons_of_not_directory hdir]
        | true =>
          rw [← ih htail, stroll]
          unfold isDirectory at hdir
          split at hdir
          · rename_i hp
            simp only [hidle, if_true]
          · contradiction
      · have hbusy : busy (name :: names) = name :: busy names := by simp [busy, hidle]
        rw [hbusy, stroll, stroll]
        cases t.find? place with
        | none => rfl
        | some n =>
          cases n with
          | file c => rfl
          | link target => rfl
          | directory entries =>
            simp only [ih htail]
            cases entries.lookup name with
            | none => rfl
            | some m =>
              cases m with
              | file c => rfl
              | directory entries => rfl
              | link target => simp only [hfollow _ _ _ htail]

/-- Parts that stand for no component do not matter on the way to a name. -/
theorem resolve_busy (links : Nat) {names : List String} (h : EndsInName names) (place : Location) :
    t.resolve (fun _ _ => .error .notFound) links place names =
      t.resolve (fun _ _ => .error .notFound) links place (busy names) := by
  induction links generalizing names place with
  | zero =>
    rw [resolve, resolve]
    exact stroll_busy (fun _ _ _ _ => rfl) h place
  | succ links ih =>
    rw [resolve, resolve]
    refine stroll_busy (fun place front names hnames => ?_) h place
    rw [ih (hnames.append front), ih (hnames.busy.append front), busy_append, busy_append, busy_busy]

/-- Names that lead to a directory from a place, with no link among them, are gone along. -/
theorem stroll_enter (missing follow : Location → List String → Except IoError Location)
    {place names : Location} {entries : List (String × Node)}
    (h : t.find? (place ++ names) = some (.directory entries))
    (hnames : ∀ s ∈ names, Path.isName s = true) (rest : List String) :
    t.stroll missing follow place (names ++ rest) = t.stroll missing follow (place ++ names) rest := by
  induction names generalizing place with
  | nil => simp
  | cons name names ih =>
    obtain ⟨hidle, hparent, -⟩ := Path.isName_iff.mp (hnames name (by simp))
    have hfind : (t.find? place).bind (·.find? (name :: names)) = some (.directory entries) := by
      rw [find?, ← Node.find?_append]
      exact h
    obtain ⟨n, hn, hrest⟩ := Option.bind_eq_some_iff.mp hfind
    obtain ⟨es, m, rfl, hm, hlast⟩ := Node.find?_cons hrest
    have hnext : t.stroll missing follow (place ++ [name]) (names ++ rest) =
        t.stroll missing follow (place ++ name :: names) rest := by
      rw [ih (by simpa using h) fun s hs => hnames s (by simp [hs])]
      simp
    rw [List.cons_append, stroll, hn]
    simp only [hidle, hparent, hm, beq_iff_eq, if_false, Bool.false_eq_true]
    -- what the name leads to is no link, since the others are found below it
    cases m with
    | file c => exact hnext
    | directory es => exact hnext
    | link target => cases names <;> simp [Node.find?] at hlast

/-- The names that lead to a directory can be gone along from the root first. -/
theorem resolve_enter (missing : Location → List String → Except IoError Location) (links : Nat)
    {names : Location} {entries : List (String × Node)} (h : t.find? names = some (.directory entries))
    (hnames : ∀ s ∈ names, Path.isName s = true) (rest : List String) :
    t.resolve missing links [] ("" :: (names ++ rest)) = t.resolve missing links names rest := by
  have hroot : ∃ es, t.find? [] = some (.directory es) := by
    cases names with
    | nil => exact ⟨entries, h⟩
    | cons name names =>
      obtain ⟨es, -, hes, -⟩ := Node.find?_cons h
      exact ⟨es, by rw [find?, hes, Node.find?]⟩
  have henter : ∀ follow : Location → List String → Except IoError Location,
      t.stroll missing follow [] ("" :: (names ++ rest)) = t.stroll missing follow names rest := by
    intro follow
    obtain ⟨es, hes⟩ := hroot
    have hplace : t.find? ([] ++ names) = some (.directory entries) := h
    rw [stroll, hes]
    exact stroll_enter missing follow hplace hnames rest
  cases links with
  | zero => exact henter _
  | succ links => exact henter _

end Files

namespace Path

/-- The part of a path that a component is read from. -/
def Component.part? : Component → Option String
  | .root => none
  | .here => none
  | .parent => some ".."
  | .name s => some s

theorem component?_bind_part? (s : String) :
    (component? s).bind Component.part? = if isIdle s then none else some s := by
  unfold component?
  by_cases hidle : isIdle s = true
  · simp [hidle]
  · by_cases hparent : s = ".."
    · subst hparent
      decide
    · simp [hidle, hparent, Component.part?]

theorem filterMap_component? (names : List String) :
    (names.filterMap component?).filterMap Component.part? = busy names := by
  rw [List.filterMap_filterMap]
  simp only [component?_bind_part?]
  induction names with
  | nil => rfl
  | cons name names ih => by_cases hidle : isIdle name = true <;> simp_all [busy]

theorem opening_part? (first : String) : (opening first).filterMap Component.part? = busy [first] := by
  unfold opening
  by_cases hdot : first = "."
  · subst hdot
    decide
  · by_cases hempty : first = ""
    · subst hempty
      decide
    · have hidle : isIdle first = false := by simp [isIdle, hdot, hempty]
      have h := filterMap_component? [first]
      simp only [List.filterMap_cons, List.filterMap_nil] at h
      simp only [beq_iff_eq, hdot, hempty, if_false]
      cases hc : component? first <;> simp_all

theorem busy_parts {p : Path} (h : p.text ≠ "") :
    busy p.parts = p.components.filterMap Component.part? := by
  obtain ⟨first, rest, hp⟩ := List.exists_cons_of_ne_nil p.parts_ne_nil
  rw [components_eq h hp, List.filterMap_append, opening_part?, filterMap_component?, ← busy_append, hp]
  rfl

theorem root_not_mem_component? (names : List String) : Component.root ∉ names.filterMap component? := by
  intro h
  obtain ⟨s, -, hs⟩ := List.mem_filterMap.mp h
  unfold component? at hs
  split at hs
  · contradiction
  · split at hs <;> simp at hs

theorem isAbsolute_iff {p : Path} : p.isAbsolute = true ↔ .root ∈ p.components := by
  by_cases hne : p.text = ""
  · rw [show p = ⟨""⟩ from congrArg Path.mk hne]
    decide
  · obtain ⟨first, rest, hp⟩ := List.exists_cons_of_ne_nil p.parts_ne_nil
    have hrest := root_not_mem_component? rest
    have hfirst := root_not_mem_component? [first]
    rw [isAbsolute_iff_first hne hp, components_eq hne hp, List.mem_append, or_iff_left hrest]
    unfold opening
    by_cases hdot : first = "."
    · simp [hdot]
    · by_cases hempty : first = ""
      · simp [hempty]
      · simp only [List.filterMap_cons, List.filterMap_nil] at hfirst
        cases hc : component? first <;> simp_all

theorem isAbsolute_eq_false_iff {p : Path} : p.isAbsolute = false ↔ .root ∉ p.components := by
  rw [← isAbsolute_iff, Bool.not_eq_true]

theorem endsInName_join (p : Path) {name : String} (h : isName name = true) :
    EndsInName (p.join name).parts := by
  obtain ⟨hidle, -, hslash⟩ := isName_iff.mp h
  have hname : EndsInName (parts ⟨name⟩) := ⟨[], name, parts_of_not_mem hslash, hidle⟩
  obtain ⟨-, hj⟩ | ⟨a, -, hj⟩ | ⟨-, hj⟩ := p.join_cases (isAbsolute_of_isName h)
  · rwa [hj]
  · rw [hj, parts_slash]
    exact hname.append _
  · rw [hj, parts_slash]
    exact hname.append _

theorem text_ne_of_endsInName {p : Path} (h : EndsInName p.parts) : p.text ≠ "" := by
  intro he
  obtain ⟨front, last, hp, hlast⟩ := h
  rw [show p = ⟨""⟩ from congrArg Path.mk he, show Path.parts ⟨""⟩ = [""] by decide] at hp
  cases front with
  | nil =>
    rw [← (List.cons.inj hp).1] at hlast
    contradiction
  | cons x front => simp at hp

end Path

namespace World

variable {w : World}

/-- Paths of the same components that end in a name lead to the same place. -/
theorem locate_congr {p q : Path} (h : p.components = q.components) (hp : EndsInName p.parts)
    (hq : EndsInName q.parts) : w.locate p = w.locate q := by
  have hne := Path.text_ne_of_endsInName hp
  have hne' := Path.text_ne_of_endsInName hq
  have habs : p.isAbsolute = q.isAbsolute := by
    rw [Bool.eq_iff_iff, Path.isAbsolute_iff, Path.isAbsolute_iff, h]
  have hbusy : busy p.parts = busy q.parts := by rw [Path.busy_parts hne, Path.busy_parts hne', h]
  simp only [locate, beq_iff_eq, hne, hne', if_false, base, habs]
  rw [Files.resolve_busy _ hp, Files.resolve_busy _ hq, hbusy]

theorem isFile_congr {p q : Path} (h : w.locate p = w.locate q) : w.isFile p = w.isFile q := by
  rw [isFile, isFile, node?, node?, h]

theorem isFile_join_congr {d e : Path} (h : d.components = e.components) {name : String}
    (hn : Path.isName name = true) : w.isFile (d.join name) = w.isFile (e.join name) := by
  refine isFile_congr (locate_congr ?_ (Path.endsInName_join d hn) (Path.endsInName_join e hn))
  rw [Path.components_join d hn, Path.components_join e hn, h]

end World

end GemOrder

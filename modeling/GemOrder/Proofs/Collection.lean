import GemOrder.Proofs.Routes
import GemOrder.World.Manifests
import Mathlib

namespace GemOrder

namespace Files

variable {t : Files}

/-- The names in a directory of a proper tree are different ones that names can be. -/
theorem names_proper (h : t.root.isProper = true) (place : Location) :
    (t.names place).Nodup ∧ ∀ s ∈ t.names place, Path.isName s = true := by
  have hperm : (t.names place).Perm ((t.entries place).map Prod.fst) := List.mergeSort_perm _ _
  suffices hproper : ((t.entries place).map Prod.fst).Nodup ∧
      ∀ entry ∈ t.entries place, Path.isName entry.1 = true by
    refine ⟨hperm.nodup_iff.mpr hproper.1, fun s hs => ?_⟩
    obtain ⟨entry, he, rfl⟩ := List.mem_map.mp (hperm.mem_iff.mp hs)
    exact hproper.2 entry he
  unfold entries
  split
  · rename_i entries hp
    have hentries := Node.isProper_directory (Node.isProper_find? h hp).1
    exact ⟨hentries.1, fun entry he => (hentries.2 entry he).1⟩
  · simp

end Files

namespace World

variable {w : World} {p q : Path}

/-- What a walk comes to: the path itself, and for some names below it what walks from there come
to. -/
theorem walk_cases (h : w.files.root.isProper = true) (skip : Path → Bool) (depth : Nat)
    (inside : List Location) (place : Location) (p : Path) :
    ∃ (names : List String) (sub : String → List Path),
      w.walk skip (depth + 1) inside place p = p :: names.flatMap sub ∧
      names.Nodup ∧ (∀ s ∈ names, Path.isName s = true) ∧
      ∀ s, sub s = [] ∨ ∃ inside place, sub s = w.walk skip depth inside place (p.join s) := by
  rw [walk]
  split
  · obtain ⟨hnodup, hnames⟩ := Files.names_proper h place
    refine ⟨w.files.names place, _, rfl, hnodup, hnames, fun s => ?_⟩
    dsimp only
    split
    · exact Or.inl rfl
    · cases w.childPlace? place s (p.join s) with
      | none => exact Or.inl rfl
      | some target =>
        dsimp only
        split
        · exact Or.inl rfl
        · exact Or.inr ⟨_, _, rfl⟩
  · exact ⟨[], fun _ => [], rfl, List.nodup_nil, by simp, fun _ => Or.inl rfl⟩

theorem components_of_mem_walk (h : w.files.root.isProper = true) {skip : Path → Bool} {depth : Nat}
    {inside : List Location} {place : Location} (hq : q ∈ w.walk skip depth inside place p) :
    ∃ names : List String, q.components = p.components ++ names.map .name := by
  induction depth generalizing inside place p with
  | zero =>
    rw [walk, List.mem_singleton] at hq
    exact ⟨[], by simp [hq]⟩
  | succ depth ih =>
    obtain ⟨names, sub, hwalk, -, hnames, hsub⟩ := walk_cases h skip depth inside place p
    rw [hwalk] at hq
    rcases List.mem_cons.mp hq with rfl | hq
    · exact ⟨[], by simp⟩
    · obtain ⟨s, hs, hq⟩ := List.mem_flatMap.mp hq
      rcases hsub s with hnone | ⟨inside', place', hsome⟩
      · simp [hnone] at hq
      · obtain ⟨rest, hrest⟩ := ih (hsome ▸ hq)
        exact ⟨s :: rest, by rw [hrest, Path.components_join p (hnames s hs)]; simp⟩

/-- A walk comes to no path twice, whatever links it follows. -/
theorem walk_nodup (h : w.files.root.isProper = true) (skip : Path → Bool) (depth : Nat)
    (inside : List Location) (place : Location) (p : Path) :
    ((w.walk skip depth inside place p).map Path.components).Nodup := by
  induction depth generalizing inside place p with
  | zero => simp [walk]
  | succ depth ih =>
    obtain ⟨names, sub, hwalk, hnodup, hnames, hsub⟩ := walk_cases h skip depth inside place p
    -- a path below a name goes on with that name, so that walks below different names keep apart
    have hbelow : ∀ s ∈ names, ∀ cs ∈ (sub s).map Path.components,
        ∃ rest, cs = p.components ++ Path.Component.name s :: rest := by
      intro s hs cs hcs
      obtain ⟨q, hq, rfl⟩ := List.mem_map.mp hcs
      rcases hsub s with hnone | ⟨inside', place', hsome⟩
      · simp [hnone] at hq
      · obtain ⟨rest, hrest⟩ := components_of_mem_walk h (hsome ▸ hq)
        exact ⟨rest.map .name, by rw [hrest, Path.components_join p (hnames s hs)]; simp⟩
    rw [hwalk, List.map_cons, List.map_flatMap, List.nodup_cons, List.nodup_flatMap]
    refine ⟨fun hp => ?_, fun s _ => ?_, ?_⟩
    · obtain ⟨s, hs, hmem⟩ := List.mem_flatMap.mp hp
      obtain ⟨rest, hrest⟩ := hbelow s hs _ hmem
      simp at hrest
    · rcases hsub s with hnone | ⟨inside', place', hsome⟩
      · simp [hnone]
      · rw [hsome]
        exact ih inside' place' (p.join s)
    · refine hnodup.imp_of_mem fun {s s'} hs hs' hne cs hcs hcs' => ?_
      obtain ⟨rest, rfl⟩ := hbelow s hs _ hcs
      obtain ⟨rest', hrest'⟩ := hbelow s' hs' _ hcs'
      have hnames := List.append_cancel_left hrest'
      exact hne (Path.Component.name.inj (List.cons.inj hnames).1)

theorem mem_entries (h : w.files.root.isProper = true) (hq : q ∈ w.entries p) :
    ∃ s, Path.isName s = true ∧ q = p.join s := by
  unfold entries at hq
  split at hq
  · obtain ⟨s, hs, rfl⟩ := List.mem_map.mp hq
    exact ⟨s, (Files.names_proper h _).2 s hs, rfl⟩
  · contradiction

theorem entries_nodup (h : w.files.root.isProper = true) (p : Path) :
    ((w.entries p).map Path.components).Nodup := by
  unfold entries
  split
  · rename_i place _
    obtain ⟨hnodup, hnames⟩ := Files.names_proper h place
    rw [List.map_map]
    exact hnodup.map_on fun s hs s' hs' he => Path.join_inj (hnames s hs) (hnames s' hs') he
  · exact List.nodup_nil

section Manifests

variable (h : w.files.root.isProper = true) (recursive : Bool) (patterns : List (List Glob.Token))
  (names : List String)

include h

/-- An input stands for files at it or below it. -/
theorem components_of_mem_manifestsIn {input : Path}
    (hq : q ∈ w.manifestsIn recursive patterns names input) : input.components <+: q.components := by
  simp only [manifestsIn] at hq
  split at hq
  · split at hq
    · contradiction
    · rw [List.mem_singleton.mp hq]
  · split at hq
    · split at hq
      · have hmem := (List.mem_filter.mp hq).1
        unfold contents at hmem
        split at hmem
        · obtain ⟨rest, hrest⟩ := components_of_mem_walk h hmem
          exact ⟨rest.map .name, hrest.symm⟩
        · contradiction
      · rw [List.mem_mergeSort] at hq
        obtain ⟨s, hs, rfl⟩ := mem_entries h (List.mem_filter.mp hq).1
        rw [Path.components_join input hs]
        exact List.prefix_append _ _
    · contradiction

/-- An input stands for different files. -/
theorem manifestsIn_nodup (input : Path) :
    ((w.manifestsIn recursive patterns names input).map Path.components).Nodup := by
  simp only [manifestsIn]
  split
  · split
    · exact List.nodup_nil
    · exact List.nodup_singleton _
  · split
    · split
      · refine List.Nodup.sublist (List.filter_sublist.map _) ?_
        unfold contents
        split
        · exact walk_nodup h _ _ _ _ _
        · exact List.nodup_nil
      · refine ((List.mergeSort_perm _ _).map _).nodup_iff.mpr ?_
        exact List.Nodup.sublist (List.filter_sublist.map _) (entries_nodup h input)
    · exact List.nodup_nil

end Manifests

end World

namespace Path

/-- Among paths of different components, one path is found once or not at all. -/
theorem countP_same {ps : List Path} (h : (ps.map components).Nodup) (p : Path) :
    ps.countP p.same = if ps.any p.same then 1 else 0 := by
  have hcount : ps.countP p.same = (ps.map components).count p.components := by
    rw [List.count, List.countP_map]
    apply List.countP_congr
    intro q _
    simp only [same_iff, Function.comp_apply, beq_iff_eq]
    exact eq_comm
  have hmem : p.components ∈ ps.map components ↔ ps.any p.same = true := by
    simp only [List.mem_map, List.any_eq_true, same_iff]
    exact exists_congr fun q => and_congr_right fun _ => eq_comm
  rw [hcount, h.count]
  simp only [hmem]

/-- One of two paths lies at the other or below it. -/
def Nested (p q : Path) : Prop :=
  p.components <+: q.components ∨ q.components <+: p.components

end Path

/-- A file is collected once for each input that stands for it. So no file is collected twice exactly
if inputs that are nested in each other stand for different files. -/
theorem collect_distinct_iff {w : World} (h : w.files.root.isProper = true) (inputs : List Path)
    (recursive : Bool) (excludes names : List String) :
    (∀ p : Path, (w.collect inputs recursive excludes names).countP p.same =
        inputs.countP fun input =>
          (w.manifestsIn recursive (World.readable excludes) names input).any p.same) ∧
      (((w.collect inputs recursive excludes names).map Path.components).Nodup ↔
        inputs.Pairwise fun i j => i.Nested j →
          ∀ p ∈ w.manifestsIn recursive (World.readable excludes) names i,
          ∀ q ∈ w.manifestsIn recursive (World.readable excludes) names j,
            p.components ≠ q.components) := by
  have hnodup := World.manifestsIn_nodup h recursive (World.readable excludes) names
  refine ⟨fun p => ?_, ?_⟩
  · rw [World.collect]
    induction inputs with
    | nil => rfl
    | cons input inputs ih =>
      rw [List.flatMap_cons, List.countP_append, List.countP_cons, ih, Path.countP_same (hnodup input),
        Nat.add_comm]
  · rw [World.collect, List.map_flatMap, List.nodup_flatMap]
    constructor
    · rintro ⟨-, hpairwise⟩
      refine hpairwise.imp fun {i j} hdisjoint _ p hp q hq he => ?_
      exact hdisjoint (List.mem_map_of_mem hp) (he ▸ List.mem_map_of_mem hq)
    · intro hpairwise
      refine ⟨fun i _ => hnodup i, hpairwise.imp fun {i j} hdistinct cs hi hj => ?_⟩
      obtain ⟨p, hp, rfl⟩ := List.mem_map.mp hi
      obtain ⟨q, hq, he⟩ := List.mem_map.mp hj
      -- both inputs lie at the file or above it, so one of them lies at the other or below it
      have hi := World.components_of_mem_manifestsIn h _ _ _ hp
      have hj := World.components_of_mem_manifestsIn h _ _ _ hq
      exact hdistinct (List.prefix_or_prefix_of_prefix hi (he ▸ hj)) p hp q hq he.symm

/-- Two directories with manifests, and a link that leads back out of one of them. -/
def World.looped : World where
  files := ⟨.directory [("app", .directory [("Gemfile", .file (.text "")), ("up", .link "..")]),
    ("lib", .directory [("gems.rb", .file (.text ""))])]⟩

/-- Directories beside each other stand for different files, however often the link leads from one to
the other. -/
theorem collect_distinct_looped :
    World.looped.files.root.isProper = true ∧
      ((World.looped.collect [⟨"app"⟩, ⟨"lib"⟩] true [] ["Gemfile", "gems.rb"]).map
        Path.components).Nodup := by
  have hproper : World.looped.files.root.isProper = true := by decide +kernel
  refine ⟨hproper, (collect_distinct_iff hproper _ _ _ _).2.mpr ?_⟩
  simp only [List.pairwise_cons, List.mem_singleton, forall_eq]
  refine ⟨fun hnested => absurd hnested ?_, by simp⟩
  unfold Path.Nested
  decide +kernel

/-- A directory and a file in it stand for the same file, which is collected twice. -/
theorem collect_overlapping :
    World.looped.collect [⟨"app"⟩, ⟨"app/Gemfile"⟩] false [] ["Gemfile", "gems.rb"] =
        [⟨"app/Gemfile"⟩, ⟨"app/Gemfile"⟩] ∧
      ¬ ((World.looped.collect [⟨"app"⟩, ⟨"app/Gemfile"⟩] false [] ["Gemfile", "gems.rb"]).map
        Path.components).Nodup := by
  have hnames : World.looped.files.names ["app"] = ["Gemfile", "up"] := by
    have hentries : (World.looped.files.entries ["app"]).map Prod.fst = ["Gemfile", "up"] := by
      decide +kernel
    rw [Files.names, hentries]
    exact List.mergeSort_of_pairwise (by decide +kernel)
  have hplace : World.looped.locate ⟨"app"⟩ = .ok ["app"] := by decide +kernel
  have hdirectory : World.looped.manifestsIn false [] ["Gemfile", "gems.rb"] ⟨"app"⟩ =
      [⟨"app/Gemfile"⟩] := by
    have hkind : World.looped.isFile ⟨"app"⟩ = false ∧ World.looped.isDirectory ⟨"app"⟩ = true := by
      decide +kernel
    have hkept : ([⟨"app/Gemfile"⟩, ⟨"app/up"⟩] : List Path).filter (fun p =>
        (World.isManifest ["Gemfile", "gems.rb"] p && World.looped.isFile p) &&
          !World.isExcluded [] p) = [⟨"app/Gemfile"⟩] := by
      decide +kernel
    have hjoin : ["Gemfile", "up"].map (Path.join ⟨"app"⟩) = [⟨"app/Gemfile"⟩, ⟨"app/up"⟩] := by
      decide +kernel
    simp only [World.manifestsIn, hkind, World.entries, hplace, hnames, hjoin, hkept, if_true,
      Bool.false_eq_true, if_false, List.mergeSort_singleton]
  have hfile : World.looped.manifestsIn false [] ["Gemfile", "gems.rb"] ⟨"app/Gemfile"⟩ =
      [⟨"app/Gemfile"⟩] := by
    decide +kernel
  have hcollect : World.looped.collect [⟨"app"⟩, ⟨"app/Gemfile"⟩] false [] ["Gemfile", "gems.rb"] =
      [⟨"app/Gemfile"⟩, ⟨"app/Gemfile"⟩] := by
    simp [World.collect, World.readable, hdirectory, hfile]
  rw [hcollect]
  exact ⟨rfl, by simp⟩

end GemOrder

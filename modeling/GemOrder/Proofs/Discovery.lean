import GemOrder.Proofs.Precedence
import GemOrder.Proofs.Routes
import Mathlib

namespace GemOrder

namespace Path

/-- A file that lies in a directory, as far as their spelling tells. -/
def LiesIn (p d : Path) : Prop :=
  ∃ name, p.components = d.components ++ [.name name]

theorem LiesIn.components_eq {p d e : Path} (h : p.LiesIn d) (h' : p.LiesIn e) :
    d.components = e.components := by
  obtain ⟨name, hp⟩ := h
  obtain ⟨name', hp'⟩ := h'
  exact List.append_inj_left' (hp.symm.trans hp') rfl

end Path

namespace World

variable {w : World} {p q d e : Path}

theorem isName_of_mem_configNames {name : String} (h : name ∈ configNames) :
    Path.isName name = true := by
  revert name
  decide

theorem mem_configsIn :
    p ∈ w.configsIn d ↔ ∃ name ∈ configNames, p = d.join name ∧ w.isFile p = true := by
  simp only [configsIn, List.mem_filter, List.mem_map]
  constructor
  · rintro ⟨⟨name, hname, rfl⟩, hfile⟩
    exact ⟨name, hname, rfl, hfile⟩
  · rintro ⟨name, hname, rfl, hfile⟩
    exact ⟨⟨name, hname, rfl⟩, hfile⟩

theorem liesIn_of_mem_configsIn (h : p ∈ w.configsIn d) : p.LiesIn d := by
  obtain ⟨name, hname, rfl, -⟩ := mem_configsIn.mp h
  exact ⟨name, Path.components_join d (isName_of_mem_configNames hname)⟩

theorem configsIn_nodup (w : World) (d : Path) : ((w.configsIn d).map Path.components).Nodup := by
  refine List.Nodup.sublist (List.filter_sublist.map _) ?_
  rw [List.map_map]
  refine List.Nodup.map_on (fun name hname name' hname' he => ?_) (by decide)
  exact Path.join_inj (isName_of_mem_configNames hname) (isName_of_mem_configNames hname') he

/-- A directory has the same configuration files under every spelling of the same components. -/
theorem exists_configsIn (h : d.components = e.components) (hp : p ∈ w.configsIn d) :
    ∃ q ∈ w.configsIn e, p.components = q.components := by
  obtain ⟨name, hname, rfl, hfile⟩ := mem_configsIn.mp hp
  have hn := isName_of_mem_configNames hname
  refine ⟨e.join name, mem_configsIn.mpr ⟨name, hname, rfl, ?_⟩, ?_⟩
  · rw [← isFile_join_congr h hn, hfile]
  · rw [Path.components_join d hn, Path.components_join e hn, h]

/-- The configuration files in some directories, of which the nearest is given first; those of the
outermost come first. -/
def configsAlong (w : World) (dirs : List Path) : List Path :=
  dirs.reverse.flatMap w.configsIn

@[simp] theorem configsAlong_cons (w : World) (d : Path) (dirs : List Path) :
    w.configsAlong (d :: dirs) = w.configsAlong dirs ++ w.configsIn d := by
  simp [configsAlong]

theorem mem_configsAlong {dirs : List Path} : p ∈ w.configsAlong dirs ↔ ∃ d ∈ dirs, p ∈ w.configsIn d := by
  simp [configsAlong]

theorem configsAlong_nodup {dirs : List Path} (h : dirs.Pairwise fun d e => e.IsAbove d) :
    ((w.configsAlong dirs).map Path.components).Nodup := by
  rw [configsAlong, List.map_flatMap, List.nodup_flatMap]
  refine ⟨fun d _ => configsIn_nodup w d, ?_⟩
  refine (List.pairwise_reverse.mpr h).imp fun {d e} hde cs hd he => hde.2 ?_
  obtain ⟨p, hp, rfl⟩ := List.mem_map.mp hd
  obtain ⟨q, hq, hpq⟩ := List.mem_map.mp he
  obtain ⟨name, hname⟩ := liesIn_of_mem_configsIn hq
  exact (liesIn_of_mem_configsIn hp).components_eq ⟨name, hpq ▸ hname⟩

/-- Files of a directory come before those of a directory below it. -/
theorem configsAlong_sublist {dirs : List Path} (h : dirs.Pairwise fun d e => e.IsAbove d)
    (hd : d ∈ dirs) (he : e ∈ dirs) (hde : d.IsAbove e) (hp : p ∈ w.configsIn d)
    (hq : q ∈ w.configsIn e) : [p, q].Sublist (w.configsAlong dirs) := by
  have hchain := List.pairwise_reverse.mpr h
  obtain ⟨front, back, hsplit⟩ := List.append_of_mem (List.mem_reverse.mpr hd)
  rw [hsplit, List.pairwise_append] at hchain
  have hback : e ∈ back := by
    have hmem := List.mem_reverse.mpr he
    rw [hsplit, List.mem_append, List.mem_cons] at hmem
    rcases hmem with hfront | rfl | hback
    · exact absurd (hchain.2.2 e hfront d List.mem_cons_self) hde.asymm
    · exact absurd rfl hde.2
    · exact hback
  rw [configsAlong, hsplit, List.flatMap_append, List.flatMap_cons]
  refine List.sublist_append_of_sublist_right ?_
  exact (List.singleton_sublist.mpr hp).append
    (List.singleton_sublist.mpr (List.mem_flatMap.mpr ⟨e, hback, hq⟩))

/-- The files of a list that are not found among others. -/
def unlisted (found new : List Path) : List Path :=
  new.filter fun p => !found.any p.same

@[simp] theorem mem_unlisted {found new : List Path} :
    p ∈ unlisted found new ↔ p ∈ new ∧ ∀ q ∈ found, p.components ≠ q.components := by
  simp [unlisted, Path.same]

@[simp] theorem unlisted_append (found new new' : List Path) :
    unlisted found (new ++ new') = unlisted found new ++ unlisted found new' :=
  List.filter_append ..

theorem unlisted_eq_self {found new : List Path}
    (h : ∀ p ∈ new, ∀ q ∈ found, p.components ≠ q.components) : unlisted found new = new := by
  refine List.filter_eq_self.mpr fun p hp => ?_
  simpa [Path.same] using h p hp

theorem addNew_eq {found new : List Path} (h : (new.map Path.components).Nodup) :
    addNew found new = found ++ unlisted found new := by
  induction new generalizing found with
  | nil => simp [addNew, unlisted]
  | cons p new ih =>
    rw [List.map_cons, List.nodup_cons] at h
    have hstep : addNew found (p :: new) =
        addNew (if found.any p.same then found else found ++ [p]) new := rfl
    rw [hstep]
    by_cases hp : found.any p.same = true
    · rw [if_pos hp, ih h.2]
      simp [unlisted, hp]
    · rw [if_neg hp, ih h.2]
      have hsame : unlisted (found ++ [p]) new = unlisted found new := by
        refine List.filter_congr fun q hq => ?_
        have hne : q.components ≠ p.components := fun he => h.1 (he ▸ List.mem_map_of_mem hq)
        simp [Path.same, hne]
      have hnew : unlisted found (p :: new) = p :: unlisted found new := by simp [unlisted, hp]
      rw [hsame, hnew]
      simp

/-- The configuration files of the home directory. -/
def homeConfigs (w : World) : List Path :=
  w.homeDirectory?.toList.flatMap w.configsIn

/-- A directory that is the home directory, as far as their spelling tells. -/
def IsHome (w : World) (d : Path) : Prop :=
  ∃ home, w.homeDirectory? = some home ∧ home.components = d.components

theorem isHome_of_mem_homeConfigs (h : p ∈ w.homeConfigs) (hd : p.LiesIn d) : w.IsHome d := by
  obtain ⟨home, hhome, hp⟩ := List.mem_flatMap.mp h
  exact ⟨home, by simpa using hhome, (liesIn_of_mem_configsIn hp).components_eq hd⟩

/-- Files that lie elsewhere than in the home directory are all listed on the way. -/
theorem unlisted_homeConfigs {new : List Path} (h : ∀ p ∈ new, ∃ d, p.LiesIn d ∧ ¬ w.IsHome d) :
    unlisted w.homeConfigs new = new := by
  refine unlisted_eq_self fun p hp q hq he => ?_
  obtain ⟨d, ⟨name, hname⟩, hd⟩ := h p hp
  exact hd (isHome_of_mem_homeConfigs hq ⟨name, he ▸ hname⟩)

/-- Files of the home directory are not listed on the way. -/
theorem not_mem_unlisted (h : w.IsHome d) (hp : p.LiesIn d) {dirs : List Path} :
    p ∉ unlisted w.homeConfigs (w.configsAlong dirs) := by
  intro hmem
  obtain ⟨halong, hne⟩ := mem_unlisted.mp hmem
  obtain ⟨home, hhome, hsame⟩ := h
  obtain ⟨d', -, hd'⟩ := mem_configsAlong.mp halong
  have hcomponents := (liesIn_of_mem_configsIn hd').components_eq hp
  obtain ⟨q, hq, hpq⟩ := exists_configsIn (hcomponents.trans hsame.symm) hd'
  exact hne q (List.mem_flatMap.mpr ⟨home, by simp [hhome], hq⟩) hpq

/-- Files of the home directory, then those on the way that are not among them. -/
theorem configFiles_eq {start dir : Path} (h : w.searchStart? start = some dir) :
    w.configFiles start =
      w.homeConfigs ++ unlisted w.homeConfigs (w.configsAlong dir.ancestors) := by
  have halong : ((w.searchStart? start).toList.flatMap fun dir =>
      dir.ancestors.reverse.flatMap w.configsIn) = w.configsAlong dir.ancestors := by
    simp [h, configsAlong]
  rw [configFiles, halong]
  exact addNew_eq (configsAlong_nodup dir.ancestors_chain)

theorem homeConfigs_nodup (w : World) : (w.homeConfigs.map Path.components).Nodup := by
  unfold homeConfigs
  cases w.homeDirectory? with
  | none => exact List.nodup_nil
  | some home => simpa using configsIn_nodup w home

/-- No configuration file is listed twice. -/
theorem configFiles_nodup {start dir : Path} (h : w.searchStart? start = some dir) :
    ((w.configFiles start).map Path.components).Nodup := by
  rw [configFiles_eq h, List.map_append, List.nodup_append]
  refine ⟨homeConfigs_nodup w, ?_, ?_⟩
  · exact (configsAlong_nodup dir.ancestors_chain).sublist (List.filter_sublist.map _)
  · intro cs hcs cs' hcs' he
    obtain ⟨p, hp, rfl⟩ := List.mem_map.mp hcs
    obtain ⟨q, hq, rfl⟩ := List.mem_map.mp hcs'
    exact (mem_unlisted.mp hq).2 p hp he.symm

theorem searchStart?_of_isDirectory {start : Path} (h : w.isDirectory start = true) :
    w.searchStart? start = some start := by
  have hfile : w.isFile start = false := by
    unfold isDirectory at h
    unfold isFile
    cases hn : w.node? start with
    | none => rfl
    | some n => cases n <;> simp_all
  simp [searchStart?, hfile, h]

section Order

variable {start : Path} (hstart : w.isDirectory start = true) (hp : p ∈ w.configFiles start)
  (hq : q ∈ w.configFiles start) (hpd : p.LiesIn d) (hqe : q.LiesIn e) (hde : d.IsAbove e)

include hstart hp hq hpd hqe hde

/-- The file of the home directory comes first, also if it is the closer one. -/
theorem home_first (h : w.IsHome e) : [q, p].Sublist (w.configFiles start) := by
  rw [configFiles_eq (searchStart?_of_isDirectory hstart), List.mem_append] at hp hq
  rw [configFiles_eq (searchStart?_of_isDirectory hstart)]
  have hq' : q ∈ w.homeConfigs := hq.resolve_right (not_mem_unlisted h hqe)
  have hp' : p ∈ unlisted w.homeConfigs (w.configsAlong start.ancestors) := by
    refine hp.resolve_left fun hhome => hde.2 ?_
    obtain ⟨home, hsome, hsame⟩ := h
    obtain ⟨home', hsome', hsame'⟩ := isHome_of_mem_homeConfigs hhome hpd
    obtain rfl := Option.some.inj (hsome.symm.trans hsome')
    exact hsame'.symm.trans hsame
  exact (List.singleton_sublist.mpr hq').append (List.singleton_sublist.mpr hp')

/-- The closer file comes last if it is none of the home directory. -/
theorem closer_last (h : ¬ w.IsHome e) : [p, q].Sublist (w.configFiles start) := by
  rw [configFiles_eq (searchStart?_of_isDirectory hstart), List.mem_append] at hp hq
  rw [configFiles_eq (searchStart?_of_isDirectory hstart)]
  have hq' := hq.resolve_left fun hhome => h (isHome_of_mem_homeConfigs hhome hqe)
  rcases hp with hp | hp
  · exact (List.singleton_sublist.mpr hp).append (List.singleton_sublist.mpr hq')
  · obtain ⟨hpa, hpnew⟩ := mem_unlisted.mp hp
    obtain ⟨hqa, hqnew⟩ := mem_unlisted.mp hq'
    obtain ⟨d', hd', hpd'⟩ := mem_configsAlong.mp hpa
    obtain ⟨e', he', hqe'⟩ := mem_configsAlong.mp hqa
    have hde' : d'.IsAbove e' := by
      rw [Path.IsAbove, (liesIn_of_mem_configsIn hpd').components_eq hpd,
        (liesIn_of_mem_configsIn hqe').components_eq hqe]
      exact hde
    have halong := configsAlong_sublist start.ancestors_chain hd' he' hde' hpd' hqe'
    have hkept : (unlisted w.homeConfigs [p, q]).Sublist
        (unlisted w.homeConfigs (w.configsAlong start.ancestors)) := halong.filter _
    have hboth : unlisted w.homeConfigs [p, q] = [p, q] := by
      refine unlisted_eq_self fun x hx => ?_
      rcases List.mem_cons.mp hx with rfl | hx
      · exact hpnew
      · rw [List.mem_singleton.mp hx]
        exact hqnew
    rw [hboth] at hkept
    exact List.sublist_append_of_sublist_right hkept

end Order

end World

/-- Of two different elements of a list without duplicates, only one comes before the other. -/
theorem not_sublist_swap {α : Type} {l : List α} (hl : l.Nodup) {a b : α} (h : [a, b].Sublist l) :
    ¬ [b, a].Sublist l := by
  induction l with
  | nil => simp at h
  | cons x l ih =>
    obtain ⟨hx, hl⟩ := List.nodup_cons.mp hl
    rcases List.sublist_cons_iff.mp h with hab | ⟨r, hr, hb⟩
    · intro hba
      rcases List.sublist_cons_iff.mp hba with hba | ⟨r, hr, -⟩
      · exact ih hl hab hba
      · obtain rfl := (List.cons.inj hr).1
        exact hx (hab.subset (by simp))
    · obtain ⟨rfl, rfl⟩ := List.cons.inj hr
      intro hba
      rcases List.sublist_cons_iff.mp hba with hba | ⟨r, hr, -⟩
      · exact hx (hba.subset (by simp))
      · obtain rfl := (List.cons.inj hr).1
        exact hx (List.singleton_sublist.mp hb)

/-- Of two configuration files for a directory, where one lies in a directory above that of the
other, the closer one comes last, and thus overrides the other in every setting, exactly if it is none
of the home directory. Otherwise it comes first and is overridden. -/
theorem closest_config_wins_iff {w : World} {start p q d e : Path}
    (hstart : w.isDirectory start = true) (hp : p ∈ w.configFiles start)
    (hq : q ∈ w.configFiles start) (hpd : p.LiesIn d) (hqe : q.LiesIn e) (hde : d.IsAbove e) :
    ([p, q].Sublist (w.configFiles start) ↔ ¬ w.IsHome e) ∧
      ([q, p].Sublist (w.configFiles start) ↔ w.IsHome e) ∧
      (¬ w.IsHome e → ∀ {α : Type} (s : Config.Setting α) (v : α), w.given? s q = some v →
        w.Overrides s (w.configFiles start) q p) ∧
      (w.IsHome e → ∀ {α : Type} (s : Config.Setting α) (v : α), w.given? s p = some v →
        w.Overrides s (w.configFiles start) p q) := by
  have hnodup := (World.configFiles_nodup (World.searchStart?_of_isDirectory hstart)).of_map
  have hlast := World.closer_last hstart hp hq hpd hqe hde
  have hfirst := World.home_first hstart hp hq hpd hqe hde
  refine ⟨⟨fun h hhome => ?_, hlast⟩, ⟨fun h => ?_, hfirst⟩, ?_, ?_⟩
  · exact not_sublist_swap hnodup h (hfirst hhome)
  · by_contra hhome
    exact not_sublist_swap hnodup h (hlast hhome)
  · intro hhome α s v hv
    exact World.overrides_of_sublist (hlast hhome) hv
  · intro hhome α s v hv
    exact World.overrides_of_sublist (hfirst hhome) hv

/-- Two configuration files that differ in the comment prefix, one in the directory of the other. -/
def World.layered (home : Option String) : World where
  files := ⟨.directory [("gemsort.toml", .file (.text "comment_prefix = \"//\"\n")),
    ("app", .directory [("gemsort.toml", .file (.text "comment_prefix = \"--\"\n")),
      ("lib", .directory [])])]⟩
  home := home

/-- With the home directory at the root, the closer file comes last and overrides the other. -/
theorem closest_config_wins_layered :
    (World.layered (some "/")).isDirectory ⟨"/app/lib"⟩ = true ∧
      Path.IsAbove ⟨"/"⟩ ⟨"/app"⟩ ∧
      [⟨"/gemsort.toml"⟩, ⟨"/app/gemsort.toml"⟩].Sublist
        ((World.layered (some "/")).configFiles ⟨"/app/lib"⟩) ∧
      (World.layered (some "/")).Overrides .commentPrefix
        ((World.layered (some "/")).configFiles ⟨"/app/lib"⟩) ⟨"/app/gemsort.toml"⟩
        ⟨"/gemsort.toml"⟩ := by
  have hstart : (World.layered (some "/")).isDirectory ⟨"/app/lib"⟩ = true := by decide +kernel
  have habove : Path.IsAbove ⟨"/"⟩ ⟨"/app"⟩ := ⟨by decide +kernel, by decide +kernel⟩
  have hhome : ¬ (World.layered (some "/")).IsHome ⟨"/app"⟩ := by
    rintro ⟨home, hsome, hsame⟩
    obtain rfl : ⟨"/"⟩ = home := Option.some.inj hsome
    exact habove.2 hsame
  have hgiven : (World.layered (some "/")).given? .commentPrefix ⟨"/app/gemsort.toml"⟩ = some "--" := by
    decide +kernel
  have hwins := closest_config_wins_iff (p := ⟨"/gemsort.toml"⟩) (q := ⟨"/app/gemsort.toml"⟩) hstart
    (by decide +kernel) (by decide +kernel) ⟨"gemsort.toml", by decide +kernel⟩
    ⟨"gemsort.toml", by decide +kernel⟩ habove
  exact ⟨hstart, habove, hwins.1.mpr hhome, hwins.2.2.1 hhome _ _ hgiven⟩

/-- Below a home directory with a configuration file, the file above that directory wins. -/
theorem closest_config_loses :
    (World.layered (some "/app")).configFiles ⟨"/app/lib"⟩ =
        [⟨"/app/gemsort.toml"⟩, ⟨"/gemsort.toml"⟩] ∧
      ((World.layered (some "/app")).configFor ⟨"/app/lib"⟩).commentPrefix = "//" := by
  decide +kernel

end GemOrder

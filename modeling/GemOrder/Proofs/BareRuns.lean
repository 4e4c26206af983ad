import GemOrder.Proofs.Hooks
import GemOrder.Proofs.MissingInputs
import GemOrder.Proofs.Spellings
import Mathlib

namespace GemOrder

namespace Path

/-- Above a directory on the way up is the rest of the way. -/
theorem parents_of_ancestors {start d : Path} {nearer farther : List Path}
    (h : start.ancestors = nearer ++ d :: farther) : d.parents = farther := by
  induction nearer generalizing start with
  | nil =>
    obtain ⟨rfl, hparents⟩ := List.cons.inj h
    exact hparents
  | cons e nearer ih =>
    have hparents : start.parents = nearer ++ d :: farther := (List.cons.inj h).2
    obtain ⟨x, xs, hx⟩ := List.exists_cons_of_ne_nil (l := nearer ++ d :: farther) (by simp)
    have hparent : start.parent? = some x := by
      rw [parent?, hparents, hx]
      rfl
    exact ih ((ancestors_parent hparent).trans hparents)

section Names

variable {xs : List String} (hxs : ∀ s ∈ xs, isName s = true)

include hxs

theorem above_append {name : String} (h : isName name = true) :
    above "" (xs ++ [name]).reverse = (build "" xs).ancestors := by
  have hidle : isIdle name = false := (isName_iff.mp h).1
  rw [List.reverse_append, List.reverse_singleton, List.singleton_append, above, hidle,
    dropWhile_isIdle_names hxs, ancestors, parents_build (slash_not_mem_names hxs)]
  rfl

/-- Above a file is the directory that its path was made from. -/
theorem parents_join {name : String} (h : isName name = true) :
    ((build "" xs).join name).parents = (build "" xs).ancestors := by
  have hparts := parts_build_join hxs (p := ⟨name⟩) (isAbsolute_of_isName h)
  rw [parts_of_not_mem (isName_iff.mp h).2.2] at hparts
  rw [parents_eq hparts, above_append hxs h]

/-- The directories on the way up from one without idle parts have none either. -/
theorem build_of_mem_ancestors {d : Path} (hd : d ∈ (build "" xs).ancestors) :
    ∃ ys, d = build "" ys ∧ ∀ s ∈ ys, isName s = true := by
  -- From the end of the names, since it is the last one that a step upwards drops.
  induction xs using List.reverseRecOn with
  | nil =>
    have hroot : (build "" []).ancestors = [build "" []] := by decide
    rw [hroot, List.mem_singleton] at hd
    exact ⟨[], hd, hxs⟩
  | append_singleton xs name ih =>
    have hfront : ∀ s ∈ xs, isName s = true := fun s hs => hxs s (List.mem_append_left _ hs)
    have hname : isName name = true := hxs name (by simp)
    rcases List.mem_cons.mp hd with rfl | hd
    · exact ⟨xs ++ [name], rfl, hxs⟩
    · rw [parents_build (slash_not_mem_names hxs), above_append hfront hname] at hd
      exact ih hfront hd

end Names

end Path

namespace World

variable {w : World} {p : Path} {text : String} {v : Vocabulary}

/-- If manifests have plain names, the directory of the nearest one lies on the way up. -/
theorem Nearest.ancestors_eq {names : List String} (hhere : ∀ s ∈ w.directory, Path.isName s = true)
    (hnames : ∀ name ∈ names, Path.isName name = true) (h : w.Nearest w.here names p) :
    ∃ nearer, w.here.ancestors = nearer ++ p.parents := by
  obtain ⟨nearer, d, farther, before, name, behind, hsplit, rfl, rfl, -⟩ := h
  have hd : d ∈ (Path.build "" w.directory).ancestors := by
    rw [← here_eq, hsplit]
    simp
  obtain ⟨ys, rfl, hys⟩ := Path.build_of_mem_ancestors hhere hd
  refine ⟨nearer, ?_⟩
  have hup : (Path.build "" ys).ancestors = Path.build "" ys :: farther :=
    congrArg _ (Path.parents_of_ancestors hsplit)
  rw [Path.parents_join hys (hnames name (by simp)), hup, hsplit]

theorem Active.nearest_of_bundled {names : List String} (h : w.Active names p)
    (hb : w.bundled? = none) : w.Nearest w.here names p := by
  cases h with
  | bundled text ht hne =>
    rw [bundled?_eq_some_iff.mpr ⟨text, ht, hne, rfl⟩] at hb
    contradiction
  | nearest p hno hp => exact hp

/-- Two texts for one manifest leave all files alike only if they are the same. -/
theorem content_replaced_iff (ht : w.manifestText p = .ok text) {a b : String} :
    (∀ q, (w.replaced p text a).content q = (w.replaced p text b).content q) ↔ a = b := by
  constructor
  · intro hcontent
    have hread : (w.replaced p text a).readText p = (w.replaced p text b).readText p := by
      rw [readText, readText, hcontent p]
    rw [readText_replaced ht, readText_replaced ht] at hread
    exact Except.ok.inj hread
  · rintro rfl q
    rfl

theorem configsAlong_append (w : World) (nearer farther : List Path) :
    w.configsAlong (nearer ++ farther) = w.configsAlong farther ++ w.configsAlong nearer := by
  simp [configsAlong]

section Below

variable {nearer : List Path} (hdir : w.isDirectory w.here = true) (hfile : w.isFile p = true)
  (hsplit : w.here.ancestors = nearer ++ p.parents)

include hdir hfile hsplit

/-- For the working directory there are the configuration files for the manifest, and behind them those
that lie below its directory. -/
theorem configFiles_here :
    w.configFiles w.here = w.configFiles p ++ unlisted w.homeConfigs (w.configsAlong nearer) := by
  rw [configFiles_eq (searchStart?_of_isDirectory hdir), configFiles_of_isFile hfile, hsplit,
    configsAlong_append, unlisted_append, List.append_assoc]

theorem configFor_here_iff :
    w.configFor w.here = w.configFor p ↔
      w.Redundant (w.configFiles p) (unlisted w.homeConfigs (w.configsAlong nearer)) [] := by
  have hiff := w.configOfAll_between_iff (w.configFiles p)
    (unlisted w.homeConfigs (w.configsAlong nearer)) []
  rw [List.append_nil, List.append_nil, ← configFiles_here hdir hfile hsplit] at hiff
  exact hiff

end Below

/-- What a run without inputs needs: a manifest, for which the names have to be known unless the
environment names it, its text, and a valid configuration for it. -/
structure Ready (w : World) (p : Path) (text : String) (v : Vocabulary) : Prop where
  active : w.Active (w.configFor w.here).manifestNames p
  named : w.bundled? = none → (w.configFor w.here).fault? = none
  text : w.manifestText p = .ok text
  vocabulary : (w.configFor p).vocabulary = .ok v

/-- What a hook makes of a text. It goes by the configuration for the working directory, and without a
valid one it does nothing. -/
def hookText (w : World) (text : String) : String :=
  (w.configFor w.here).vocabulary.toOption.elim text fun v => v.sort text

end World

namespace Arguments

variable {a : Arguments} {w : World} {p : Path} {text : String} {v : Vocabulary}

section Found

variable (hconfig : a.config = none)

include hconfig

/-- The default manifest is the active one. Only the search for it needs a valid configuration. -/
theorem defaultManifest_eq_ok_iff :
    (a.defaultManifest w none).value = .ok p ↔ w.Active (w.configFor w.here).manifestNames p ∧
      (w.bundled? = none → (w.configFor w.here).fault? = none) := by
  rw [← World.active?_eq_ok_iff, World.active?]
  unfold defaultManifest
  cases w.bundled? with
  | some q => simp
  | none =>
    simp only [manifestNames, bind, Logged.bind, pure]
    cases hbuild : (a.buildConfig w w.here).value with
    | error f =>
      have hfault : (w.configFor w.here).fault? ≠ none := by
        intro hfault
        have hok := (buildConfig_of_none_iff hconfig).mpr ⟨rfl, hfault⟩
        rw [hbuild] at hok
        cases hok
      simp [Except.map, hfault]
    | ok c =>
      obtain ⟨rfl, hfault⟩ := (buildConfig_of_none_iff hconfig).mp hbuild
      simp only [Except.map, hfault, Logged.tell, implies_true, and_true]
      cases w.findManifest w.here (w.configFor w.here).manifestNames <;> simp [Except.mapError]

/-- A file is sorted by the configuration for it. -/
theorem sortFile_of_vocabulary (hv : (w.configFor p).vocabulary = .ok v) :
    (a.sortFile w none p).value = (w.after p (w.configFor p) a.mode,
      (w.plan p (w.configFor p) a.mode).1.mapError .error) := by
  have hfault := (Config.vocabulary_eq_ok_iff.mp hv).1
  have hbuild := (buildConfig_of_none_iff hconfig (w := w)).mpr ⟨rfl, hfault⟩
  simp only [sortFile, bind, Logged.bind, hbuild, pure, World.after, World.processFile_value]

/-- Writing gives a result if the text can be read and the configuration is valid. -/
theorem sortFile_ok_iff (hmode : a.mode = .write) :
    (∃ o, (a.sortFile w none p).value.2 = .ok o) ↔
      ∃ text v, w.manifestText p = .ok text ∧ (w.configFor p).vocabulary = .ok v := by
  constructor
  · rintro ⟨o, ho⟩
    cases hbuild : (a.buildConfig w p).value with
    | error f =>
      simp only [sortFile, bind, Logged.bind, hbuild, pure] at ho
      cases ho
    | ok c =>
      obtain ⟨rfl, hfault⟩ := (buildConfig_of_none_iff hconfig).mp hbuild
      have hv := Config.vocabulary_eq_ok_iff.mpr ⟨hfault, rfl⟩
      rw [sortFile_of_vocabulary hconfig hv] at ho
      cases ht : w.manifestText p with
      | error e => simp [World.plan, ht, Except.mapError] at ho
      | ok text => exact ⟨text, _, rfl, hv⟩
  · rintro ⟨text, v, ht, hv⟩
    obtain ⟨r, hr⟩ : ∃ r, emit p.text text (v.sort text) .write = .ok r :=
      emit_ok_iff.mpr (Or.inl (by simp))
    rw [sortFile_of_vocabulary hconfig hv, World.plan_of_text ht hv, hmode, hr]
    exact ⟨r, rfl⟩

/-- A run without inputs is one over the default manifest. -/
theorem runFiles_of_no_inputs (hinputs : a.inputs = []) (w : World) :
    (a.runFiles w).value = (a.defaultManifest w none).value >>= fun p =>
      .ok (a.reportOn w none [p]) := by
  simp only [runFiles, baseConfig, manifests, hconfig, hinputs, bind, Logged.bind, Except.bind, pure,
    Option.isSome_none, List.isEmpty_nil, if_true, Bool.false_eq_true, if_false]
  cases (a.defaultManifest w none).value <;> rfl

end Found

theorem reportOn_single_world (a : Arguments) (w : World) (base : Option Config) (p : Path) :
    (a.reportOn w base [p]).world = (a.sortFile w base p).value.1 :=
  a.record_world { world := w } p _ _

theorem run_bare_value (w : World) (stdin : Content) :
    (({} : Arguments).run w stdin).value = ({} : Arguments).conclude w
      ((({} : Arguments).defaultManifest w none).value >>= fun p =>
        .ok (({} : Arguments).reportOn w none [p])) := by
  rw [run_value rfl rfl, runFiles_of_no_inputs rfl rfl]

theorem run_bare_exit_iff (w : World) (stdin : Content) :
    (({} : Arguments).run w stdin).value.exit = 0 ↔ ∃ p text v, w.Ready p text v := by
  rw [run_bare_value, conclude_exit_iff]
  constructor
  · rintro ⟨report, hreport, hexit⟩
    cases hp : (({} : Arguments).defaultManifest w none).value with
    | error f =>
      rw [hp] at hreport
      cases hreport
    | ok p =>
      rw [hp] at hreport
      cases hreport
      rw [reportOn_exit, sortFiles_exit_iff] at hexit
      obtain ⟨hactive, hnamed⟩ := (defaultManifest_eq_ok_iff rfl).mp hp
      obtain ⟨text, v, ht, hv⟩ := (sortFile_ok_iff rfl rfl).mp hexit.1
      exact ⟨p, text, v, hactive, hnamed, ht, hv⟩
  · rintro ⟨p, text, v, hready⟩
    have hp := (defaultManifest_eq_ok_iff (a := {}) rfl).mpr ⟨hready.active, hready.named⟩
    refine ⟨({} : Arguments).reportOn w none [p], by rw [hp]; rfl, ?_⟩
    rw [reportOn_exit, sortFiles_exit_iff]
    exact ⟨(sortFile_ok_iff rfl rfl).mpr ⟨text, v, hready.text, hready.vocabulary⟩, trivial⟩

/-- A run without arguments sorts the manifest by the configuration for the manifest. -/
theorem run_bare_world (h : w.Ready p text v) (stdin : Content) :
    (({} : Arguments).run w stdin).value.world = w.replaced p text (v.sort text) := by
  have hp := (defaultManifest_eq_ok_iff (a := {}) rfl).mpr ⟨h.active, h.named⟩
  rw [run_bare_value, hp]
  have hworld := reportOn_single_world {} w none p
  rw [sortFile_of_vocabulary rfl h.vocabulary] at hworld
  exact hworld.trans (World.after_write h.text h.vocabulary)

/-- A hook sorts the same manifest by the configuration for the working directory. -/
theorem run_hook_world (h : w.Ready p text v) (stdin : Content) :
    (({ hook := true } : Arguments).run w stdin).value.world = w.replaced p text (w.hookText text) := by
  have hchoose := chooseConfig_of_none (a := { hook := true }) rfl (w := w) w.here
  rw [run_of_hook rfl, (runHook_value _ w).2]
  cases hv : (w.configFor w.here).vocabulary with
  | error fault =>
    have htarget : ({ hook := true } : Arguments).hookTarget? w = none := by
      rw [Option.eq_none_iff_forall_ne_some]
      rintro ⟨c, q⟩ hsome
      obtain ⟨hc, hfault, -⟩ := hookTarget?_eq_some_iff.mp hsome
      rw [hchoose, Except.ok.injEq] at hc
      rw [hc, Config.vocabulary_eq_ok_iff.mpr ⟨hfault, rfl⟩] at hv
      cases hv
    rw [htarget, World.hookText, hv]
    exact (if_pos rfl).symm
  | ok u =>
    have hfault := (Config.vocabulary_eq_ok_iff.mp hv).1
    have htarget : ({ hook := true } : Arguments).hookTarget? w = some (w.configFor w.here, p) :=
      hookTarget?_eq_some_iff.mpr ⟨hchoose, hfault, h.active⟩
    rw [htarget, World.hookText, hv]
    exact World.after_write h.text hv

end Arguments

/-- How the files stand after a run without arguments and after a hook, if the run sorts the text of a
manifest. -/
structure World.Beside (w bare hook : World) (p : Path) (text : String) (v : Vocabulary) : Prop where
  ready : w.Ready p text v
  bare_eq : bare = w.replaced p text (v.sort text)
  hook_eq : hook = w.replaced p text (w.hookText text)
  agree_iff : (∀ q, hook.content q = bare.content q) ↔ w.hookText text = v.sort text
  agree_of_config : w.configFor w.here = w.configFor p → hook = bare
  config_iff : w.isDirectory w.here = true → ∀ nearer, w.here.ancestors = nearer ++ p.parents →
    (w.configFor w.here = w.configFor p ↔
      w.Redundant (w.configFiles p) (unlisted w.homeConfigs (w.configsAlong nearer)) [])
  on_the_way : w.bundled? = none → (∀ s ∈ w.directory, Path.isName s = true) →
    (∀ name ∈ (w.configFor w.here).manifestNames, Path.isName name = true) →
      ∃ nearer, w.here.ancestors = nearer ++ p.parents

/-- If a run without arguments succeeds, it sorts the active manifest by the configuration for the
manifest. A hook sorts the same manifest by the configuration for the working directory, so that both
leave all files alike exactly if these make the same of its text. The configurations are the same if
the files below the directory of the manifest are redundant. -/
theorem hook_follows_run_iff {w : World} {stdin : Content}
    (h : (({} : Arguments).run w stdin).value.exit = 0) :
    ∃ p text v, w.Beside (({} : Arguments).run w stdin).value.world
      (({ hook := true } : Arguments).run w stdin).value.world p text v := by
  obtain ⟨p, text, v, hready⟩ := (Arguments.run_bare_exit_iff w stdin).mp h
  refine ⟨p, text, v, ?_⟩
  rw [Arguments.run_bare_world hready, Arguments.run_hook_world hready]
  constructor
  case ready => exact hready
  case bare_eq => rfl
  case hook_eq => rfl
  case agree_iff => exact World.content_replaced_iff hready.text
  case agree_of_config =>
    intro hconfig
    rw [World.hookText, hconfig, hready.vocabulary]
    rfl
  case config_iff =>
    intro hdir nearer hsplit
    exact World.configFor_here_iff hdir (World.isFile_of_manifestText hready.text) hsplit
  case on_the_way =>
    intro hbundled hhere hnames
    exact (hready.active.nearest_of_bundled hbundled).ancestors_eq hhere hnames

/-- A manifest in the directory above the working directory, which has a configuration of its own. -/
def World.configuredBelow (toml : String) : World where
  files := ⟨.directory [("Gemfile", .file (.text "gem 'b'\ngem 'a'\n")),
    ("app", .directory [("gemsort.toml", .file (.text toml))])]⟩
  directory := ["app"]

set_option maxRecDepth 20000 in
/-- Where both configurations are the same, the hook does what the run does. -/
theorem hook_follows_run_iff_redundant :
    let w := World.configuredBelow "comment_prefix = \"#\"\n"
    let bare := (({} : Arguments).run w (.text "")).value
    let hook := (({ hook := true } : Arguments).run w (.text "")).value
    bare.exit = 0 ∧ hook.world = bare.world ∧
      hook.world.readText ⟨"/Gemfile"⟩ = .ok "gem 'a'\ngem 'b'\n" := by
  intro w bare hook
  have hhere : w.configFor w.here = {} := by decide +kernel
  have hfile : w.configFor ⟨"/Gemfile"⟩ = {} := by decide +kernel
  have hfound : w.active? ["Gemfile", "gems.rb"] = .ok ⟨"/Gemfile"⟩ := by decide +kernel
  have hactive : w.Active (w.configFor w.here).manifestNames ⟨"/Gemfile"⟩ :=
    hhere ▸ World.active?_eq_ok_iff.mp hfound
  have hready : w.Ready ⟨"/Gemfile"⟩ "gem 'b'\ngem 'a'\n" Vocabulary.standard :=
    ⟨hactive, fun _ => hhere ▸ rfl, rfl, hfile ▸ Config.vocabulary_standard⟩
  have hexit : bare.exit = 0 := (Arguments.run_bare_exit_iff w _).mpr ⟨_, _, _, hready⟩
  obtain ⟨p, text, v, hbeside⟩ := hook_follows_run_iff hexit
  obtain rfl := hactive.unique hbeside.ready.active
  obtain rfl := Except.ok.inj (hready.text.symm.trans hbeside.ready.text)
  obtain rfl := Except.ok.inj (hready.vocabulary.symm.trans hbeside.ready.vocabulary)
  have hsame : hook.world = bare.world := hbeside.agree_of_config (hhere.trans hfile.symm)
  refine ⟨hexit, hsame, ?_⟩
  rw [hsame, hbeside.bare_eq, World.readText_replaced hready.text]
  cbv

set_option maxRecDepth 20000 in
/-- A hook can leave a manifest that a run without arguments sorts: the configuration in the working
directory has another word for declarations. -/
theorem hook_passes_by_manifest :
    let w := World.configuredBelow "declaration_keyword = \"dep\"\n"
    let bare := (({} : Arguments).run w (.text "")).value
    let hook := (({ hook := true } : Arguments).run w (.text "")).value
    bare.exit = 0 ∧ bare.world.readText ⟨"/Gemfile"⟩ = .ok "gem 'a'\ngem 'b'\n" ∧
      hook.world.readText ⟨"/Gemfile"⟩ = .ok "gem 'b'\ngem 'a'\n" := by
  intro w bare hook
  have hhere : w.configFor w.here = { declarationKeyword := "dep" } := by decide +kernel
  have hfile : w.configFor ⟨"/Gemfile"⟩ = {} := by decide +kernel
  have hfault : ({ declarationKeyword := "dep" } : Config).fault? = none := by decide +kernel
  have hfound : w.active? ["Gemfile", "gems.rb"] = .ok ⟨"/Gemfile"⟩ := by decide +kernel
  have hready : w.Ready ⟨"/Gemfile"⟩ "gem 'b'\ngem 'a'\n" Vocabulary.standard :=
    ⟨hhere ▸ World.active?_eq_ok_iff.mp hfound, fun _ => hhere ▸ hfault, rfl,
      hfile ▸ Config.vocabulary_standard⟩
  have hsorted : Vocabulary.standard.sort "gem 'b'\ngem 'a'\n" = "gem 'a'\ngem 'b'\n" := by cbv
  have hkept : (Vocabulary.ofConfig { declarationKeyword := "dep" }).sort "gem 'b'\ngem 'a'\n" =
      "gem 'b'\ngem 'a'\n" := by cbv
  have hhook : w.hookText "gem 'b'\ngem 'a'\n" = "gem 'b'\ngem 'a'\n" := by
    rw [World.hookText, hhere, Config.vocabulary_eq_ok_iff.mpr ⟨hfault, rfl⟩]
    exact hkept
  refine ⟨(Arguments.run_bare_exit_iff w _).mpr ⟨_, _, _, hready⟩, ?_, ?_⟩
  · exact hsorted ▸ Arguments.run_bare_world hready (.text "") ▸ World.readText_replaced hready.text _
  · exact hhook ▸ Arguments.run_hook_world hready (.text "") ▸ World.readText_replaced hready.text _

end GemOrder

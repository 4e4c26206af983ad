import GemOrder.Proofs.Modes
import Mathlib

namespace GemOrder

theorem toOption_eq_some_iff {ε α : Type} {x : Except ε α} {a : α} : x.toOption = some a ↔ x = .ok a := by
  cases x <;> simp [Except.toOption]

theorem Config.vocabulary_eq_ok_iff {c : Config} {v : Vocabulary} :
    c.vocabulary = .ok v ↔ c.fault? = none ∧ Vocabulary.ofConfig c = v := by
  unfold vocabulary
  cases c.fault? <;> simp

namespace World

variable {w : World} {names : List String} {p q : Path}

/-- The first manifest on the way up from a directory: it lies in the nearest directory that holds one,
and of those in it, it has the first name. -/
def Nearest (w : World) (start : Path) (names : List String) (p : Path) : Prop :=
  ∃ nearer d farther before name behind,
    start.ancestors = nearer ++ d :: farther ∧ names = before ++ name :: behind ∧
      p = d.join name ∧ w.isFile p = true ∧
      (∀ e ∈ nearer, ∀ other ∈ names, w.isFile (e.join other) = false) ∧
      ∀ other ∈ before, w.isFile (d.join other) = false

/-- The first of some names that is a file in a directory. -/
theorem find?_join_eq_some_iff {d : Path} :
    (names.map d.join).find? w.isFile = some p ↔ ∃ before name behind,
      names = before ++ name :: behind ∧ p = d.join name ∧ w.isFile p = true ∧
        ∀ other ∈ before, w.isFile (d.join other) = false := by
  rw [List.find?_map, Option.map_eq_some_iff]
  constructor
  · rintro ⟨name, hfind, rfl⟩
    obtain ⟨hfile, before, behind, hnames, hbefore⟩ := List.find?_eq_some_iff_append.mp hfind
    refine ⟨before, name, behind, hnames, rfl, hfile, ?_⟩
    intro other hother
    simpa using hbefore other hother
  · rintro ⟨before, name, behind, hnames, rfl, hfile, hbefore⟩
    refine ⟨name, List.find?_eq_some_iff_append.mpr ⟨hfile, before, behind, hnames, ?_⟩, rfl⟩
    intro other hother
    simpa using hbefore other hother

theorem find?_join_eq_none_iff {d : Path} :
    (names.map d.join).find? w.isFile = none ↔ ∀ name ∈ names, w.isFile (d.join name) = false := by
  simp

/-- The search upwards finds the nearest manifest. -/
theorem findManifest_eq_ok_iff {start : Path} :
    w.findManifest start names = .ok p ↔ w.Nearest start names p := by
  have hfind : w.findManifest start names = .ok p ↔ (candidates start names).find? w.isFile = some p := by
    unfold findManifest
    cases (candidates start names).find? w.isFile <;> simp
  rw [hfind, candidates, List.find?_flatMap, List.findSome?_eq_some_iff]
  simp only [find?_join_eq_some_iff, find?_join_eq_none_iff]
  constructor
  · rintro ⟨nearer, d, farther, hsplit, ⟨before, name, behind, hnames, hp, hfile, hbefore⟩, hnearer⟩
    exact ⟨nearer, d, farther, before, name, behind, hsplit, hnames, hp, hfile, hnearer, hbefore⟩
  · rintro ⟨nearer, d, farther, before, name, behind, hsplit, hnames, hp, hfile, hnearer, hbefore⟩
    exact ⟨nearer, d, farther, hsplit, ⟨before, name, behind, hnames, hp, hfile, hbefore⟩, hnearer⟩

/-- The manifest of a run that is given none: the one that the environment names, or else the nearest
one to the working directory. -/
inductive Active (w : World) (names : List String) : Path → Prop where
  | bundled (text : String) (h : w.bundleGemfile = some text) (hne : text ≠ "") :
      Active w names ⟨text⟩
  | nearest (p : Path) (h : w.bundleGemfile = none ∨ w.bundleGemfile = some "")
      (hp : w.Nearest w.here names p) : Active w names p

def active? (w : World) (names : List String) : Except Error Path :=
  match w.bundled? with
  | some p => .ok p
  | none => w.findManifest w.here names

theorem bundled?_eq_some_iff :
    w.bundled? = some p ↔ ∃ text, w.bundleGemfile = some text ∧ text ≠ "" ∧ p = ⟨text⟩ := by
  unfold bundled?
  cases w.bundleGemfile with
  | none => simp
  | some text =>
    by_cases h : text = ""
    · simp [h]
    · simp only [beq_iff_eq, h, if_false, Option.some.injEq, exists_eq_left', ne_eq, not_false_eq_true,
        true_and]
      exact eq_comm

theorem bundled?_eq_none_iff :
    w.bundled? = none ↔ w.bundleGemfile = none ∨ w.bundleGemfile = some "" := by
  unfold bundled?
  cases w.bundleGemfile with
  | none => simp
  | some text => simp

theorem active?_eq_ok_iff : w.active? names = .ok p ↔ w.Active names p := by
  unfold active?
  cases hb : w.bundled? with
  | some q =>
    obtain ⟨text, htext, hne, rfl⟩ := bundled?_eq_some_iff.mp hb
    constructor
    · intro h
      cases h
      exact .bundled text htext hne
    · intro h
      cases h with
      | bundled other h hne' =>
        rw [htext] at h
        cases h
        rfl
      | nearest p h hp => simp [htext, hne] at h
  | none =>
    have hnone := bundled?_eq_none_iff.mp hb
    constructor
    · intro h
      exact .nearest p hnone (findManifest_eq_ok_iff.mp h)
    · intro h
      cases h with
      | bundled text h hne => simp [h, hne] at hnone
      | nearest p h hp => exact findManifest_eq_ok_iff.mpr hp

/-- There is one active manifest at most. -/
theorem Active.unique (hp : w.Active names p) (hq : w.Active names q) : p = q :=
  Except.ok.inj ((active?_eq_ok_iff.mpr hp).symm.trans (active?_eq_ok_iff.mpr hq))

@[simp] theorem hookFile_world (w : World) (p : Path) (c : Config) :
    (w.hookFile p c).value.1 = w.after p c .write := by
  unfold hookFile after
  simp only [bind, Logged.bind]
  cases (w.processFile p c .write).value.2 <;> rfl

theorem runHook_world (w : World) (start : Path) (c : Config) :
    (w.runHook start c).value.1 =
      (w.findManifest start c.manifestNames).toOption.elim w fun p => w.after p c .write := by
  unfold runHook
  simp only [bind, Logged.bind]
  cases w.findManifest start c.manifestNames with
  | error e => rfl
  | ok p => exact w.hookFile_world p c

/-- A file whose text cannot be had stays as it is. -/
theorem after_of_manifestText {c : Config} {mode : Mode} {e : Error} (h : w.manifestText p = .error e) :
    w.after p c mode = w := by
  apply after_of_plan
  rw [plan, h]

end World

namespace Arguments

variable {a : Arguments} {w : World} {c : Config} {p : Path}

/-- A configuration is built if it can be loaded and has no fault. -/
theorem buildConfig_eq_ok_iff {start : Path} :
    (a.buildConfig w start).value = .ok c ↔
      (a.chooseConfig w start).value = .ok c ∧ c.fault? = none := by
  simp only [buildConfig, bind, Logged.bind]
  cases (a.chooseConfig w start).value with
  | error e => simp [pure]
  | ok d =>
    simp only [Except.ok.injEq]
    cases hf : d.fault? with
    | none =>
      constructor
      · intro h
        cases h
        exact ⟨rfl, hf⟩
      · rintro ⟨rfl, -⟩
        rfl
    | some fault =>
      constructor
      · intro h
        cases h
      · rintro ⟨rfl, h⟩
        rw [hf] at h
        cases h

/-- Without a configuration file among the arguments, the one found for a path is used. -/
theorem chooseConfig_of_none (h : a.config = none) (start : Path) :
    (a.chooseConfig w start).value = .ok (w.configFor start) := by
  unfold chooseConfig
  rw [h]

theorem buildConfig_of_none_iff (h : a.config = none) {start : Path} :
    (a.buildConfig w start).value = .ok c ↔ w.configFor start = c ∧ c.fault? = none := by
  rw [buildConfig_eq_ok_iff, chooseConfig_of_none h, Except.ok.injEq]

theorem run_of_hook (h : a.hook = true) (stdin : Content) : a.run w stdin = a.runHook w := by
  unfold run
  exact if_pos h

/-- The configuration and the manifest of a hook, if there are both. -/
def hookTarget? (a : Arguments) (w : World) : Option (Config × Path) :=
  (a.buildConfig w w.here).value.toOption.bind fun c =>
    (w.active? c.manifestNames).toOption.map fun p => (c, p)

theorem hookTarget?_eq_some_iff :
    a.hookTarget? w = some (c, p) ↔ (a.chooseConfig w w.here).value = .ok c ∧ c.fault? = none ∧
      w.Active c.manifestNames p := by
  simp only [hookTarget?, Option.bind_eq_some_iff, Option.map_eq_some_iff, toOption_eq_some_iff,
    buildConfig_eq_ok_iff, World.active?_eq_ok_iff]
  constructor
  · rintro ⟨d, ⟨hchoose, hfault⟩, q, hactive, he⟩
    cases he
    exact ⟨hchoose, hfault, hactive⟩
  · rintro ⟨hchoose, hfault, hactive⟩
    exact ⟨c, ⟨hchoose, hfault⟩, p, hactive, rfl⟩

/-- A hook succeeds whatever it finds, and all that it does is to sort its manifest. -/
theorem runHook_value (a : Arguments) (w : World) :
    (a.runHook w).value.exit = 0 ∧
      (a.runHook w).value.world = (a.hookTarget? w).elim w fun (c, p) => w.after p c .write := by
  simp only [runHook, hookTarget?, bind, Logged.bind]
  cases (a.buildConfig w w.here).value with
  | error f => exact ⟨rfl, rfl⟩
  | ok c =>
    simp only [World.active?, Except.toOption, Option.bind_some]
    cases w.bundled? with
    | some p => exact ⟨rfl, w.hookFile_world p c⟩
    | none =>
      refine ⟨rfl, (w.runHook_world w.here c).trans ?_⟩
      cases w.findManifest w.here c.manifestNames <;> rfl

/-- What a run as a hook does to the files. -/
structure HookEffect (a : Arguments) (w after : World) : Prop where
  change : after ≠ w → ∃ c v p place old text,
    (a.chooseConfig w w.here).value = .ok c ∧ c.vocabulary = .ok v ∧ w.Active c.manifestNames p ∧
      w.locate p = .ok place ∧ w.files.find? place = some (.file old) ∧ old.text? = some text ∧
      w.Rewritten after place (v.sort text)
  unloaded : ∀ e, (a.chooseConfig w w.here).value = .error e → after = w
  invalid : ∀ c fault, (a.chooseConfig w w.here).value = .ok c → c.fault? = some fault → after = w
  unfound : ∀ c, (a.chooseConfig w w.here).value = .ok c →
    (∀ p, ¬ w.Active c.manifestNames p) → after = w
  unreadable : ∀ c p, (a.chooseConfig w w.here).value = .ok c → w.Active c.manifestNames p →
    (w.isFile p = false ∨ ∃ content, w.content p = .ok content ∧
      (maxFileSize < content.size ∨ content.text? = none)) → after = w
  sorts : ∀ c v p content text, (a.chooseConfig w w.here).value = .ok c → c.vocabulary = .ok v →
    w.Active c.manifestNames p → w.content p = .ok content → content.size ≤ maxFileSize →
      content.text? = some text → after.readText p = .ok (v.sort text)

/-- Without a target there is nothing to do. -/
theorem hookEffect_of_none (h : a.hookTarget? w = none) : a.HookEffect w w := by
  refine ⟨fun hne => absurd rfl hne, fun _ _ => rfl, fun _ _ _ _ => rfl, fun _ _ _ => rfl,
    fun _ _ _ _ _ => rfl, ?_⟩
  intro c v p content text hchoose hv hactive
  have hfault := (Config.vocabulary_eq_ok_iff.mp hv).1
  have hsome := hookTarget?_eq_some_iff.mpr ⟨hchoose, hfault, hactive⟩
  rw [h] at hsome
  contradiction

/-- With a target, sorting it is what is done. -/
theorem hookEffect_of_some (h : a.hookTarget? w = some (c, p)) :
    a.HookEffect w (w.after p c .write) := by
  obtain ⟨hchoose, hfault, hactive⟩ := hookTarget?_eq_some_iff.mp h
  have hsame {d : Config} (hd : (a.chooseConfig w w.here).value = .ok d) : d = c :=
    Except.ok.inj (hd.symm.trans hchoose)
  constructor
  case change =>
    intro hne
    have hsorted : w.outcome p c .write = .ok .sorted := by
      by_contra hno
      exact hne (World.after_of_outcome hno)
    obtain ⟨v, place, old, text, hv, hp, hf, ht, -, hre⟩ := World.rewritten_of_sorted hsorted
    exact ⟨c, v, p, place, old, text, hchoose, hv, hactive, hp, hf, ht, hre⟩
  case unloaded =>
    intro e he
    rw [hchoose] at he
    contradiction
  case invalid =>
    intro d fault hd hbad
    rw [hsame hd, hfault] at hbad
    contradiction
  case unfound =>
    intro d hd hnone
    rw [hsame hd] at hnone
    exact absurd hactive (hnone p)
  case unreadable =>
    intro d q hd hq hbad
    rw [hsame hd] at hq
    obtain rfl := hactive.unique hq
    cases ht : w.manifestText p with
    | error e => exact World.after_of_manifestText ht
    | ok text =>
      obtain ⟨content, hcontent, hsize, htext⟩ := World.manifestText_eq_ok_iff.mp ht
      rcases hbad with hmissing | ⟨content', hcontent', hlarge | hraw⟩
      · rw [World.isFile_of_manifestText ht] at hmissing
        contradiction
      · cases hcontent.symm.trans hcontent'
        exact absurd hsize (Nat.not_le.mpr hlarge)
      · cases hcontent.symm.trans hcontent'
        rw [htext] at hraw
        contradiction
  case sorts =>
    intro d v q content text hd hv hq hcontent hsize htext
    rw [hsame hd] at hv hq
    obtain rfl := hactive.unique hq
    exact World.readText_after (World.manifestText_eq_ok_iff.mpr ⟨content, hcontent, hsize, htext⟩) hv

end Arguments

/-- A hook is harmless. It succeeds whatever files, environment and other arguments it is run with. It
changes one file at most, the active manifest, to its text sorted by the words of a valid configuration.
If the configuration or the manifest cannot be used, it changes nothing. -/
theorem hook_harmless {a : Arguments} (h : a.hook = true) (w : World) (stdin : Content) :
    (a.run w stdin).value.exit = 0 ∧ a.HookEffect w (a.run w stdin).value.world := by
  obtain ⟨hexit, hworld⟩ := a.runHook_value w
  rw [Arguments.run_of_hook h, hworld]
  refine ⟨hexit, ?_⟩
  cases ht : a.hookTarget? w with
  | none => exact Arguments.hookEffect_of_none ht
  | some target => exact Arguments.hookEffect_of_some ht

/-- A manifest in the directory above the working directory, and another one further up. -/
def World.climbing : World where
  files := ⟨.directory [("Gemfile", .file (.text "gem 'd'\ngem 'c'\n")),
    ("app", .directory [("gems.rb", .file (.text "gem 'b'\ngem 'a'\n")), ("lib", .directory [])])]⟩
  directory := ["app", "lib"]

set_option maxRecDepth 20000 in
/-- The nearest manifest is sorted, whatever inputs and mode are asked for besides. -/
theorem hook_harmless_nearest :
    World.climbing.Active ["Gemfile", "gems.rb"] ⟨"/app/gems.rb"⟩ ∧
      let r := (({ hook := true, check := true, inputs := [⟨"x"⟩] } : Arguments).run World.climbing
        (.text "")).value
      r.exit = 0 ∧ r.world.readText ⟨"/app/gems.rb"⟩ = .ok "gem 'a'\ngem 'b'\n" := by
  have hactive : World.climbing.Active ["Gemfile", "gems.rb"] ⟨"/app/gems.rb"⟩ :=
    World.active?_eq_ok_iff.mp (by decide +kernel)
  have hconfig : World.climbing.configFor World.climbing.here = {} := by decide +kernel
  have hsort : Vocabulary.standard.sort "gem 'b'\ngem 'a'\n" = "gem 'a'\ngem 'b'\n" := by cbv
  obtain ⟨hexit, heffect⟩ := hook_harmless
    (a := { hook := true, check := true, inputs := [⟨"x"⟩] }) rfl World.climbing (.text "")
  refine ⟨hactive, hexit, hsort ▸ heffect.sorts {} _ _ (.text "gem 'b'\ngem 'a'\n") _ ?_
    Config.vocabulary_standard hactive (by decide +kernel) (by decide +kernel) rfl⟩
  exact congrArg Except.ok hconfig

end GemOrder

import GemOrder.Proofs.Hooks
import GemOrder.Proofs.Workers
import Mathlib

namespace GemOrder

namespace World

variable {w : World}

/-- Whether a path leads neither to a file nor to a directory. -/
def isMissing (w : World) (p : Path) : Bool :=
  !(w.isFile p || w.isDirectory p)

theorem manifestsIn_of_missing {p : Path} (h : w.isMissing p = true) (recursive : Bool)
    (patterns : List (List Glob.Token)) (names : List String) :
    w.manifestsIn recursive patterns names p = [] := by
  obtain ⟨hfile, hdirectory⟩ : w.isFile p = false ∧ w.isDirectory p = false := by
    simpa [isMissing] using h
  simp [manifestsIn, hfile, hdirectory]

/-- The inputs that lead somewhere. -/
def present (w : World) (inputs : List Path) : List Path :=
  inputs.filter fun p => !w.isMissing p

/-- What is missing stands for no files. -/
theorem collect_present (inputs : List Path) (recursive : Bool) (excludes names : List String) :
    w.collect (w.present inputs) recursive excludes names =
      w.collect inputs recursive excludes names := by
  unfold collect present
  induction inputs with
  | nil => rfl
  | cons p inputs ih =>
    cases hm : w.isMissing p with
    | true => simp [hm, ih, manifestsIn_of_missing hm]
    | false => simp [hm, ih]

theorem mem_collectEvents {inputs : List Path} {p : Path} (hp : p ∈ inputs)
    (hm : w.isMissing p = true) (excludes : List String) :
    ⟨.warn, s!"no such file or directory: {p.text}", []⟩ ∈ w.collectEvents inputs excludes := by
  refine List.mem_append_right _ (List.mem_filterMap.mpr ⟨p, hp, ?_⟩)
  rw [if_neg (by simpa [isMissing] using hm)]

end World

theorem Session.exit_eq_zero_iff (s : Session) : s.exit = 0 ↔ s.failed = 0 ∧ s.unsorted = 0 := by
  unfold exit
  by_cases hf : 0 < s.failed
  · simp [hf, Nat.pos_iff_ne_zero.mp hf]
  · by_cases hu : 0 < s.unsorted
    · simp [hf, hu, Nat.pos_iff_ne_zero.mp hu]
    · simp [hf, hu, Nat.eq_zero_of_not_pos]

namespace Arguments

variable (a : Arguments)

@[simp] theorem record_world (s : Session) (p : Path) (w : World) (r : Except Failure (Outcome × String)) :
    (a.record s p (w, r)).world = w := by
  cases r with
  | error f =>
    rw [record]
    split <;> rfl
  | ok r =>
    obtain ⟨outcome, out⟩ := r
    cases outcome <;> rfl

/-- A file leaves the exit status at zero exactly if it comes to a result. -/
theorem record_exit_iff (s : Session) (p : Path) (w : World) (r : Except Failure (Outcome × String)) :
    (a.record s p (w, r)).exit = 0 ↔ s.exit = 0 ∧ ∃ o, r = .ok o := by
  rw [Session.exit_eq_zero_iff, Session.exit_eq_zero_iff]
  cases r with
  | error f =>
    rw [record]
    split <;> simp
  | ok r =>
    obtain ⟨outcome, out⟩ := r
    cases outcome <;> simp [record]

/-- Files come to a result each, if they are sorted one after the other. -/
def Passes (base : Option Config) : World → List Path → Prop
  | _, [] => True
  | w, p :: files =>
    (∃ o, (a.sortFile w base p).value.2 = .ok o) ∧ Passes base (a.sortFile w base p).value.1 files

theorem foldl_sortNext_exit (base : Option Config) (s : Session) (files : List Path) :
    (files.foldl (fun s p => (a.sortNext base s p).value) s).exit = 0 ↔
      s.exit = 0 ∧ a.Passes base s.world files := by
  induction files generalizing s with
  | nil => simp [Passes]
  | cons p files ih =>
    rw [List.foldl_cons, ih, sortNext_value]
    rcases hr : (a.sortFile s.world base p).value with ⟨w, r⟩
    simp [record_exit_iff, Passes, hr, and_assoc]

theorem sortFiles_exit_iff (w : World) (base : Option Config) (files : List Path) :
    (a.sortFiles w base files).value.exit = 0 ↔ a.Passes base w files := by
  rw [sortFiles, Logged.value_foldlM, foldl_sortNext_exit]
  simp [Session.exit]

/-- How a run over some files ends. -/
def reportOn (w : World) (base : Option Config) (files : List Path) : Report :=
  if files.isEmpty then ⟨w, 0, "", a.note "No Gemfiles found to sort."⟩
  else
    let s := (a.sortFiles w base files).value
    ⟨s.world, s.exit, s.out, s.notes⟩

@[simp] theorem reportOn_exit (w : World) (base : Option Config) (files : List Path) :
    (a.reportOn w base files).exit = (a.sortFiles w base files).value.exit := by
  cases files <;> rfl

/-- The files of a run with inputs are those that the inputs stand for. -/
theorem runFiles_of_inputs {a : Arguments} (h : a.inputs ≠ []) (w : World) :
    (a.runFiles w).value = (a.baseConfig w).value >>= fun base =>
      (a.manifestNames w base).value >>= fun names =>
        .ok (a.reportOn w base (w.collect a.inputs a.recursive a.exclude names)) := by
  have hinputs : a.inputs.isEmpty = false := by simpa using h
  simp only [runFiles, manifests, hinputs, bind, Logged.bind, Except.bind]
  cases (a.baseConfig w).value with
  | error f => rfl
  | ok base =>
    simp only [Bool.false_eq_true, if_false]
    cases (a.manifestNames w base).value with
    | error f => rfl
    | ok names =>
      simp only [pure]
      cases w.collect a.inputs a.recursive a.exclude names with
      | nil => rfl
      | cons p files => rfl

/-- The end of a run: a report, or the failure that kept it from one. -/
def conclude (w : World) : Except Failure Report → Report
  | .ok r => r
  | .error f => ⟨w, if f.isNotSorted then 1 else 2, "", a.note s!"gemsort: {f.report}"⟩

theorem run_value {a : Arguments} (hhook : a.hook = false) (hstdin : a.readsStdin = false) (w : World)
    (stdin : Content) : (a.run w stdin).value = a.conclude w (a.runFiles w).value := by
  simp only [run, hhook, hstdin, bind, Logged.bind, Bool.false_eq_true, if_false]
  cases (a.runFiles w).value <;> rfl

theorem conclude_exit_iff (w : World) (r : Except Failure Report) :
    (a.conclude w r).exit = 0 ↔ ∃ report, r = .ok report ∧ report.exit = 0 := by
  cases r with
  | error f =>
    rw [conclude]
    split <;> simp
  | ok report => simp [conclude]

/-- A run over inputs succeeds if the configuration can be used and the files that the inputs stand
for come to a result each. -/
theorem run_exit_of_inputs {a : Arguments} (hhook : a.hook = false) (hstdin : a.readsStdin = false)
    (h : a.inputs ≠ []) (w : World) (stdin : Content) :
    (a.run w stdin).value.exit = 0 ↔ ∃ base names, (a.baseConfig w).value = .ok base ∧
      (a.manifestNames w base).value = .ok names ∧
      a.Passes base w (w.collect a.inputs a.recursive a.exclude names) := by
  rw [run_value hhook hstdin, conclude_exit_iff, runFiles_of_inputs h]
  simp only [← sortFiles_exit_iff, ← reportOn_exit]
  cases (a.baseConfig w).value with
  | error f => simp [bind, Except.bind]
  | ok base =>
    cases hnames : (a.manifestNames w base).value with
    | error f => simp [bind, Except.bind, hnames]
    | ok names => simp [bind, Except.bind, hnames]

/-- The warnings about inputs are in the log of a run that comes to look for them. -/
theorem collectEvents_subset_log {a : Arguments} (hhook : a.hook = false)
    (hstdin : a.readsStdin = false) (h : a.inputs ≠ []) {w : World} {base : Option Config}
    {names : List String} (hbase : (a.baseConfig w).value = .ok base)
    (hnames : (a.manifestNames w base).value = .ok names) (stdin : Content) :
    w.collectEvents a.inputs a.exclude ⊆ (a.run w stdin).log := by
  have hinputs : a.inputs.isEmpty = false := by simpa using h
  intro e he
  simp only [run, runFiles, manifests, hhook, hstdin, hinputs, bind, Logged.bind, hbase, hnames,
    Bool.false_eq_true, if_false, Logged.tell]
  simp [he]

end Arguments

/-- An input that is missing does not make a run fail. The run succeeds exactly if the configuration
can be used and the files that the other inputs stand for come to a result each. As long as there are
other inputs it does the same as a run over these alone. All that tells of the missing input is a
warning in the log. -/
theorem run_missing_input {a : Arguments} {w : World} {p : Path} (hhook : a.hook = false)
    (hstdin : a.readsStdin = false) (hp : p ∈ a.inputs) (hm : w.isMissing p = true)
    (stdin : Content) :
    ((a.run w stdin).value.exit = 0 ↔ ∃ base names, (a.baseConfig w).value = .ok base ∧
        (a.manifestNames w base).value = .ok names ∧
        a.Passes base w (w.collect (w.present a.inputs) a.recursive a.exclude names)) ∧
      (w.present a.inputs ≠ [] → w.present a.inputs ≠ [⟨"-"⟩] →
        (a.run w stdin).value = ({ a with inputs := w.present a.inputs }.run w stdin).value) ∧
      ((a.run w stdin).value.exit = 0 →
        ⟨.warn, s!"no such file or directory: {p.text}", []⟩ ∈ (a.run w stdin).log) := by
  have hne : a.inputs ≠ [] := List.ne_nil_of_mem hp
  have hexit := Arguments.run_exit_of_inputs hhook hstdin hne w stdin
  simp only [World.collect_present]
  refine ⟨hexit, ?_, ?_⟩
  · intro hsome hdash
    have hstdin' : { a with inputs := w.present a.inputs }.readsStdin = false := by
      simpa [Arguments.readsStdin] using hdash
    have hfiles : (a.runFiles w).value = ({ a with inputs := w.present a.inputs }.runFiles w).value := by
      rw [Arguments.runFiles_of_inputs hne, Arguments.runFiles_of_inputs hsome]
      simp only [World.collect_present]
      rfl
    have hrun := Arguments.run_value (a := { a with inputs := w.present a.inputs }) hhook hstdin' w stdin
    rw [Arguments.run_value hhook hstdin, hrun, hfiles]
    rfl
  · intro hzero
    obtain ⟨base, names, hbase, hnames, -⟩ := hexit.mp hzero
    exact Arguments.collectEvents_subset_log hhook hstdin hne hbase hnames stdin
      (World.mem_collectEvents hp hm a.exclude)

/-- A directory with one manifest. -/
def World.single : World where
  files := ⟨.directory [("Gemfile", .file (.text ""))]⟩

/-- A check of a manifest and of one whose name is misspelt. -/
def Arguments.misspelt : Arguments where
  inputs := [⟨"Gemfile"⟩, ⟨"Gemfiel"⟩]
  check := true

set_option maxRecDepth 20000 in
/-- Beside a manifest that passes the check, a missing one is only warned of. -/
theorem run_missing_input_misspelt :
    World.single.isMissing ⟨"Gemfiel"⟩ = true ∧
      (Arguments.misspelt.run World.single (.text "")).value.exit = 0 ∧
      ⟨.warn, "no such file or directory: Gemfiel", []⟩ ∈
        (Arguments.misspelt.run World.single (.text "")).log := by
  have hm : World.single.isMissing ⟨"Gemfiel"⟩ = true := by decide +kernel
  have hrun := run_missing_input (a := Arguments.misspelt) rfl (by decide) (by decide) hm (.text "")
  have hfiles : World.single.collect (World.single.present [⟨"Gemfile"⟩, ⟨"Gemfiel"⟩]) false []
      ["Gemfile", "gems.rb"] = [⟨"Gemfile"⟩] := by
    decide +kernel
  have hbuild (start : Path) (h : World.single.configFor start = {}) :
      (Arguments.misspelt.buildConfig World.single start).value = .ok {} :=
    (Arguments.buildConfig_of_none_iff rfl).mpr ⟨h, by decide +kernel⟩
  have htext : World.single.manifestText ⟨"Gemfile"⟩ = .ok "" := by decide +kernel
  have hsorted : Vocabulary.standard.sort "" = "" := by cbv
  have hzero := hrun.1.mpr ⟨none, ["Gemfile", "gems.rb"], rfl, ?_, ?_⟩
  · exact ⟨hm, hzero, hrun.2.2 hzero⟩
  · simp only [Arguments.manifestNames, bind, Logged.bind, hbuild World.single.here (by decide +kernel)]
    rfl
  · refine hfiles ▸ ⟨⟨(.alreadySorted, ""), ?_⟩, trivial⟩
    simp only [Arguments.sortFile, bind, Logged.bind, World.processFile_value,
      hbuild ⟨"Gemfile"⟩ (by decide +kernel), World.plan_of_text htext Config.vocabulary_standard, hsorted]
    rfl

/-- A check of what is not there succeeds. -/
theorem run_missing_exit :
    World.single.isMissing ⟨"Gemfiel"⟩ = true ∧
      (({ check := true, inputs := [⟨"Gemfiel"⟩] } : Arguments).run World.single (.text "")).value.exit =
        0 := by
  decide +kernel

end GemOrder

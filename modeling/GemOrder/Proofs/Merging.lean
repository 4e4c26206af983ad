import GemOrder.Proofs.Precedence
import Mathlib.Data.List.Induction

namespace GemOrder

namespace Config

/-- Of the words that are not known yet, each is new where it stands first. -/
theorem newWords_eq_eraseDups (ws more : List String) :
    newWords ws more = (more.filter fun w => decide (w ∉ ws)).eraseDups := by
  induction more generalizing ws with
  | nil => rfl
  | cons w more ih =>
    rw [newWords]
    by_cases hw : w ∈ ws
    · rw [if_pos hw, ih, List.filter_cons_of_neg (by simpa using hw)]
    · have hknown : (more.filter fun x => decide (x ∉ ws ++ [w])) =
          (more.filter fun x => decide (x ∉ ws)).filter fun x => !x == w := by
        rw [List.filter_filter]
        refine List.filter_congr fun x _ => ?_
        rw [Bool.eq_iff_iff]
        simp [and_comm]
      rw [if_neg hw, ih, List.filter_cons_of_pos (by simpa using hw), List.eraseDups_cons, hknown]

/-- The second time, a file gives nothing new. -/
theorem apply_apply (c : Config) (o : Overlay) : (c.apply o).apply o = c.apply o := by
  apply eq_of_settings
  · intro α s
    cases h : s.given o <;> simp [h]
  · exact (addWords_addWords_iff c.extraStarterKeywords _ _).mpr (List.prefix_refl _)

end Config

namespace World

variable {α : Type} {w : World} {s : Config.Setting α}

/-- What a configuration file gives: its text is there to be read and well formed. -/
def overlay? (w : World) (p : Path) : Option Config.Overlay :=
  (w.readText p).toOption.bind Toml.parse?

@[simp] theorem toOption_readOverlay (w : World) (p : Path) : (w.readOverlay p).toOption = w.overlay? p := by
  unfold readOverlay overlay?
  cases w.readText p with
  | error cause => rfl
  | ok document =>
    cases h : Toml.parse? document <;> simp [Except.toOption, h]

theorem applyFile_eq (w : World) (c : Config) (p : Path) :
    w.applyFile c p = (w.overlay? p).elim c c.apply := by
  rw [← toOption_readOverlay, applyFile]
  cases w.readOverlay p <;> rfl

/-- What a setting comes to in a list of files: what the last well-formed file to give it gives, or
what it is by default. -/
inductive Settles (w : World) (s : Config.Setting α) (ps : List Path) : α → Prop where
  | given (front : List Path) (p : Path) (back : List Path) (o : Config.Overlay) (x : α)
      (order : ps = front ++ p :: back) (formed : w.overlay? p = some o) (gives : s.given o = some x)
      (last : ∀ q ∈ back, ∀ o', w.overlay? q = some o' → s.given o' = none) : Settles w s ps x
  | default (none_gives : ∀ q ∈ ps, ∀ o, w.overlay? q = some o → s.given o = none) :
      Settles w s ps (s.get {})

theorem given?_eq (w : World) (s : Config.Setting α) (p : Path) :
    w.given? s p = (w.overlay? p).bind s.given := by
  simp [given?]

theorem given?_eq_some_iff {p : Path} {x : α} :
    w.given? s p = some x ↔ ∃ o, w.overlay? p = some o ∧ s.given o = some x := by
  rw [given?_eq, Option.bind_eq_some_iff]

theorem given?_eq_none_iff {p : Path} :
    w.given? s p = none ↔ ∀ o, w.overlay? p = some o → s.given o = none := by
  rw [given?_eq, Option.bind_eq_none_iff]

/-- A further file settles what it gives and leaves the rest. -/
theorem Settles.applyFile {ps : List Path} {c : Config} (h : w.Settles s ps (s.get c)) (p : Path) :
    w.Settles s (ps ++ [p]) (s.get (w.applyFile c p)) := by
  rw [get_applyFile]
  cases hp : w.given? s p with
  | some x =>
    obtain ⟨o, ho, hx⟩ := given?_eq_some_iff.mp hp
    exact .given ps p [] o x rfl ho hx (by simp)
  | none =>
    have hnone := given?_eq_none_iff.mp hp
    generalize hx : s.get c = x at h
    cases h with
    | given front q back o _ order formed gives last =>
      refine .given front q (back ++ [p]) o x (by simp [order]) formed gives ?_
      simpa [or_imp, forall_and] using ⟨last, hnone⟩
    | default none_gives =>
      refine .default ?_
      simpa [or_imp, forall_and] using ⟨none_gives, hnone⟩

theorem settles_configOfAll (w : World) (s : Config.Setting α) (ps : List Path) :
    w.Settles s ps (s.get (w.configOfAll ps)) := by
  induction ps using List.reverseRecOn with
  | nil => exact .default (by simp)
  | append_singleton ps p ih =>
    simpa using ih.applyFile p

/-- Files that do not give a setting leave it as it is. -/
theorem get_foldl_of_none {ps : List Path} (h : ∀ p ∈ ps, w.given? s p = none) (c : Config) :
    s.get (ps.foldl w.applyFile c) = s.get c := by
  have hnone : w.lastGiven s ps = none := by
    rw [lastGiven, List.filterMap_eq_nil_iff.mpr h]
    rfl
  simp [hnone]

theorem Settles.get_eq {ps : List Path} {x : α} (h : w.Settles s ps x) : s.get (w.configOfAll ps) = x := by
  cases h with
  | given front p back o _ order formed gives last =>
    have hback : ∀ q ∈ back, w.given? s q = none := fun q hq => given?_eq_none_iff.mpr (last q hq)
    rw [order, configOfAll_append, List.foldl_cons, get_foldl_of_none hback, get_applyFile,
      given?_eq_some_iff.mpr ⟨o, formed, gives⟩]
    rfl
  | default none_gives =>
    exact get_foldl_of_none (fun q hq => given?_eq_none_iff.mpr (none_gives q hq)) _

/-- Files that are not well formed make no difference. -/
theorem configOfAll_filter (w : World) (ps : List Path) :
    w.configOfAll (ps.filter fun p => (w.overlay? p).isSome) = w.configOfAll ps := by
  rw [configOfAll, List.foldl_filter, configOfAll]
  congr 1
  funext c p
  rw [applyFile_eq]
  cases w.overlay? p <;> rfl

@[simp] theorem applyFile_applyFile (w : World) (c : Config) (p : Path) :
    w.applyFile (w.applyFile c p) p = w.applyFile c p := by
  simp only [applyFile_eq]
  cases w.overlay? p with
  | none => rfl
  | some o => exact c.apply_apply o

theorem extras_eq (w : World) (p : Path) :
    w.extras p = (w.overlay? p).elim [] Config.Overlay.extraStarterKeywords := by
  simp [extras]

end World

/-- The configuration for a path is what its files come to, and this is settled for every list of
files: each setting by the last well-formed file that gives it, and the extra starters by all
well-formed files, each where it is given first. Files that cannot be read or are not well formed make
no difference, and neither does a file that is listed again behind itself. -/
theorem configFor_merges (w : World) :
    (∀ start, w.configFor start = w.configOfAll (w.configFiles start)) ∧
    (∀ ps : List Path,
      (∀ {α : Type} (s : Config.Setting α) (x : α),
        s.get (w.configOfAll ps) = x ↔ w.Settles s ps x) ∧
      (w.configOfAll ps).extraStarterKeywords =
        (ps.flatMap fun p => (w.overlay? p).elim [] Config.Overlay.extraStarterKeywords).eraseDups ∧
      w.configOfAll (ps.filter fun p => (w.overlay? p).isSome) = w.configOfAll ps) ∧
    ∀ (front : List Path) (p : Path) (back : List Path),
      w.configOfAll (front ++ p :: p :: back) = w.configOfAll (front ++ p :: back) := by
  refine ⟨fun start => rfl, fun ps => ⟨?_, ?_, w.configOfAll_filter ps⟩, ?_⟩
  · intro α s x
    constructor
    · rintro rfl
      exact w.settles_configOfAll s ps
    · exact World.Settles.get_eq
  · have hextras : (w.configOfAll ps).extraStarterKeywords = Config.addWords [] (ps.flatMap w.extras) :=
      w.extras_foldl_applyFile {} ps
    rw [hextras, Config.addWords_eq, List.nil_append, Config.newWords_eq_eraseDups,
      funext w.extras_eq]
    simp
  · intro front p back
    simp

/-- Three configuration files, the second of which breaks off behind its first setting. -/
def World.brokenBetween : World where
  files := ⟨.directory [
    ("gemsort.toml", .file (.text "closer_keyword = \"fin\"\nextra_starter_keywords = [\"a\", \"b\"]\n")),
    ("app", .directory [
      ("gemsort.toml", .file (.text "closer_keyword = \"stop\"\ncomment_prefix =\n")),
      (".gemsort.toml", .file (.text "comment_prefix = \"--\"\nextra_starter_keywords = [\"b\", \"c\"]\n"))])]⟩

/-- The file in the middle counts for nothing, although its first setting could be read: that setting
is as the first file gives it. -/
theorem configFor_merges_broken :
    World.brokenBetween.configFiles ⟨"/app"⟩ =
        [⟨"/gemsort.toml"⟩, ⟨"/app/gemsort.toml"⟩, ⟨"/app/.gemsort.toml"⟩] ∧
      (World.brokenBetween.readText ⟨"/app/gemsort.toml"⟩).isOk = true ∧
      World.brokenBetween.overlay? ⟨"/app/gemsort.toml"⟩ = none ∧
      World.brokenBetween.configFor ⟨"/app"⟩ =
        { closerKeyword := "fin", commentPrefix := "--", extraStarterKeywords := ["a", "b", "c"] } := by
  have hmerges := configFor_merges World.brokenBetween
  have hfiles : World.brokenBetween.configFiles ⟨"/app"⟩ =
      [⟨"/gemsort.toml"⟩, ⟨"/app/gemsort.toml"⟩, ⟨"/app/.gemsort.toml"⟩] := by decide +kernel
  refine ⟨hfiles, by decide +kernel, by decide +kernel, ?_⟩
  rw [hmerges.1, hfiles, ← (hmerges.2.1 _).2.2]
  decide +kernel

end GemOrder

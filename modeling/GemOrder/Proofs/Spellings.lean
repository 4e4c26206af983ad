import GemOrder.Proofs.Discovery
import Mathlib

namespace GemOrder

namespace Path

theorem intercalate_cut (cs : List Char) : ['/'].intercalate (cut cs) = cs := by
  induction cs with
  | nil => simp [cut]
  | cons c cs ih =>
    obtain ⟨part, parts, hcut⟩ := List.exists_cons_of_ne_nil (cut_ne_nil cs)
    rw [hcut] at ih
    rw [cut, hcut]
    by_cases hc : c = '/'
    · simp [hc, List.intercalate_cons_cons, ih]
    · simp only [beq_iff_eq, hc, if_false]
      cases parts with
      | nil => simpa using ih
      | cons part' parts => simpa [List.intercalate_cons_cons] using ih

theorem ext_parts {p q : Path} (h : p.parts = q.parts) : p = q := by
  have hcut : cut p.text.toList = cut q.text.toList :=
    List.map_injective_iff.mpr (fun _ _ he => String.ofList_injective he) h
  have htext : p.text.toList = q.text.toList := by
    rw [← intercalate_cut p.text.toList, hcut, intercalate_cut]
  cases p
  cases q
  exact congrArg mk (String.toList_inj.mp htext)

/-- What stands before a relative path that is joined to one of these characters. -/
def stem (cs : List Char) : List Char :=
  match cs.getLast? with
  | none => []
  | some c => if c == '/' then cs else cs ++ ['/']

theorem toList_join (p : Path) {a : String} (h : isAbsolute ⟨a⟩ = false) :
    (p.join a).text.toList = stem p.text.toList ++ a.toList := by
  unfold join stem
  rw [h]
  cases p.text.toList.getLast? with
  | none => simp
  | some c => by_cases hc : c = '/' <;> simp [hc]

theorem stem_append (cs ds : List Char) : stem (stem cs ++ ds) = stem cs ++ stem ds := by
  cases hds : ds.getLast? with
  | some d =>
    have hlast : (stem cs ++ ds).getLast? = some d := by simp [List.getLast?_append, hds]
    rw [stem, hlast, stem.eq_def ds, hds]
    by_cases hd : d = '/' <;> simp [hd]
  | none =>
    rw [List.getLast?_eq_none_iff.mp hds, List.append_nil, show stem [] = [] from rfl, List.append_nil]
    cases hcs : cs.getLast? with
    | none => simp [stem, hcs]
    | some c => by_cases hc : c = '/' <;> simp [stem, hcs, hc]

theorem isAbsolute_join_name {d : Path} (hd : d.isAbsolute = false) {name : String}
    (h : isName name = true) : (d.join name).isAbsolute = false := by
  rw [isAbsolute_eq_false_iff] at hd ⊢
  simpa [components_join d h] using hd

theorem isAbsolute_build {first : String} (hfirst : isName first = true) {xs : List String}
    (h : ∀ s ∈ first :: xs, '/' ∉ s.toList) : (build first xs).isAbsolute = false := by
  rw [isAbsolute_eq_false_iff, components_build h, opening_of_isName hfirst]
  simpa using root_not_mem_component? xs

theorem isAbsolute_of_mem_parents {p d : Path} (hrel : p.isAbsolute = false) (hd : d ∈ p.parents) :
    d.isAbsolute = false := by
  have habove : d.IsAbove p := (List.pairwise_cons.mp p.ancestors_chain).1 d hd
  rw [isAbsolute_eq_false_iff] at hrel ⊢
  exact fun hmem => hrel (habove.1.subset hmem)

/-- A relative path without dots starts with a name. -/
theorem isName_first {p : Path} (hrel : p.isAbsolute = false) (hne : p.text ≠ "")
    (hhere : .here ∉ p.components) (hparent : .parent ∉ p.components) {first : String}
    {rest : List String} (hp : p.parts = first :: rest) : isName first = true := by
  have hslash : '/' ∉ first.toList := not_mem_of_mem_parts (by rw [hp]; simp)
  have hempty : first ≠ "" := by
    rw [ne_eq, ← isAbsolute_iff_first hne hp, hrel]
    simp
  rw [components_eq hne hp] at hhere hparent
  have hdot : first ≠ "." := by
    rintro rfl
    simp [opening] at hhere
  have hdots : first ≠ ".." := by
    rintro rfl
    simp [opening, component?, isIdle] at hparent
  simp [isName_iff, isIdle, hdot, hempty, hdots, hslash]

theorem join_join (p : Path) {d : Path} (hd : d.isAbsolute = false) {name : String}
    (h : isName name = true) : (p.join d.text).join name = p.join (d.join name).text := by
  have hname := isAbsolute_of_isName h
  have hboth : ((p.join d.text).join name).text.toList = (p.join (d.join name).text).text.toList := by
    rw [toList_join _ hname, toList_join p hd,
      toList_join p (a := (d.join name).text) (isAbsolute_join_name hd h), toList_join d hname,
      stem_append, List.append_assoc]
  exact congrArg mk (String.toList_inj.mp hboth)

theorem slash_not_mem_names {xs : List String} (h : ∀ s ∈ xs, isName s = true) :
    ∀ s ∈ "" :: xs, '/' ∉ s.toList := by
  intro s hs
  rcases List.mem_cons.mp hs with rfl | hs
  · simp
  · exact (isName_iff.mp (h s hs)).2.2

theorem dropWhile_isIdle_names {xs : List String} (h : ∀ s ∈ xs, isName s = true) :
    (xs.reverse.dropWhile isIdle).reverse = xs := by
  cases hback : xs.reverse with
  | nil => simpa using hback.symm
  | cons name names =>
    have hname : isIdle name = false :=
      (isName_iff.mp (h name (by rw [← List.mem_reverse, hback]; simp))).1
    rw [List.dropWhile_cons_of_neg (by simp [hname]), ← hback, List.reverse_reverse]

/-- A relative path is joined to one from the root part by part. -/
theorem parts_build_join {xs : List String} (hxs : ∀ s ∈ xs, isName s = true) {p : Path}
    (hrel : p.isAbsolute = false) : ((build "" xs).join p.text).parts = "" :: (xs ++ p.parts) := by
  cases xs with
  | nil =>
    have hroot : (build "" []).join p.text = ⟨"" ++ "/" ++ p.text⟩ := by
      simp [build, join, hrel]
    rw [hroot, parts_slash]
    rfl
  | cons name names =>
    have hparts : (build "" (name :: names)).parts = "" :: name :: names :=
      (parts_build (slash_not_mem_names hxs)).resolve_right (by simp)
    obtain ⟨he, -⟩ | ⟨a, ha, -⟩ | ⟨-, hj⟩ := (build "" (name :: names)).join_cases hrel
    · exact absurd he (build_text_ne _ _)
    · -- no name is empty, so no slash stands at the end
      have hlast : parts ⟨a⟩ ++ [""] = "" :: name :: names := by
        rw [← hparts, show build "" (name :: names) = ⟨a ++ "/"⟩ from congrArg mk ha,
          ← String.append_empty (s := a ++ "/"), parts_slash]
        rfl
      have hempty : "" ∈ name :: names := by
        obtain ⟨x, xs, hx⟩ := List.exists_cons_of_ne_nil (parts_ne_nil ⟨a⟩)
        rw [hx, List.cons_append] at hlast
        rw [← (List.cons.inj hlast).2]
        simp
      exact absurd (hxs "" hempty) (by decide)
    · rw [hj, parts_slash, hparts]
      rfl

end Path

namespace World

variable {w : World}

/-- A path taken from the path of the working directory. -/
def absolute (w : World) (p : Path) : Path :=
  w.here.join p.text

theorem here_eq (w : World) : w.here = Path.build "" w.directory := by
  unfold here Path.build
  cases w.directory with
  | nil => rfl
  | cons name names => simp [String.intercalate_cons_cons]

theorem applyFile_congr {p q : Path} (h : w.locate p = w.locate q) (c : Config) :
    w.applyFile c p = w.applyFile c q := by
  have htext : w.readText p = w.readText q := by rw [readText, readText, content, content, h]
  rw [applyFile, applyFile, readOverlay, readOverlay, htext]
  cases w.readText q with
  | error e => rfl
  | ok document =>
    dsimp only
    cases Toml.parse? document <;> rfl

section Names

variable (hnames : ∀ s ∈ w.directory, Path.isName s = true)

include hnames

theorem parts_absolute {p : Path} (hrel : p.isAbsolute = false) :
    (w.absolute p).parts = "" :: (w.directory ++ p.parts) := by
  unfold absolute
  rw [here_eq]
  exact Path.parts_build_join hnames hrel

theorem isAbsolute_absolute {p : Path} (hrel : p.isAbsolute = false) :
    (w.absolute p).text ≠ "" ∧ (w.absolute p).isAbsolute = true := by
  have hparts := parts_absolute hnames hrel
  have htext : (w.absolute p).text ≠ "" := by
    intro he
    rw [show w.absolute p = ⟨""⟩ from congrArg Path.mk he, show Path.parts ⟨""⟩ = [""] by decide] at hparts
    simp [Path.parts_ne_nil] at hparts
  refine ⟨htext, ?_⟩
  rw [Path.isAbsolute_iff, Path.components_eq htext hparts]
  simp [Path.opening]

theorem build_absolute {first : String} (hfirst : Path.isName first = true) {xs : List String}
    (h : ∀ s ∈ first :: xs, '/' ∉ s.toList) :
    Path.build "" (w.directory ++ first :: xs) = w.absolute (Path.build first xs) := by
  have hslash : ∀ s ∈ "" :: (w.directory ++ first :: xs), '/' ∉ s.toList := by
    intro s hs
    rw [← List.cons_append, List.mem_append] at hs
    exact hs.elim (Path.slash_not_mem_names hnames s) (h s)
  have hne := Path.ne_empty_of_isName hfirst
  apply Path.ext_parts
  rw [parts_absolute hnames (Path.isAbsolute_build hfirst h),
    (Path.parts_build hslash).resolve_right (by simp), (Path.parts_build h).resolve_right (by simp [hne])]

variable {entries : List (String × Node)}
  (hdir : w.files.find? w.directory = some (.directory entries))

include hdir

/-- Both spellings lead to the same place. -/
theorem locate_absolute {p : Path} (hrel : p.isAbsolute = false) (hne : p.text ≠ "") :
    w.locate (w.absolute p) = w.locate p := by
  obtain ⟨htext, habs⟩ := isAbsolute_absolute hnames hrel
  simp only [locate, beq_iff_eq, htext, hne, if_false, base, habs, hrel, if_true,
    Bool.false_eq_true, parts_absolute hnames hrel]
  exact Files.resolve_enter _ _ hdir hnames _

theorem isFile_absolute {p : Path} (hrel : p.isAbsolute = false) (hne : p.text ≠ "") :
    w.isFile (w.absolute p) = w.isFile p :=
  isFile_congr (locate_absolute hnames hdir hrel hne)

/-- A directory has the same configuration files under both spellings. -/
theorem configsIn_absolute {d d' : Path} (hrel : d.isAbsolute = false)
    (h : ∀ name, Path.isName name = true → d'.join name = w.absolute (d.join name)) :
    w.configsIn d' = (w.configsIn d).map w.absolute := by
  have hspell : configNames.map d'.join = (configNames.map d.join).map w.absolute := by
    rw [List.map_map]
    exact List.map_congr_left fun name hname => h name (isName_of_mem_configNames hname)
  rw [configsIn, hspell, List.filter_map, configsIn]
  refine congrArg (List.map w.absolute) (List.filter_congr fun p hp => ?_)
  obtain ⟨name, hname, rfl⟩ := List.mem_map.mp hp
  have hn := isName_of_mem_configNames hname
  exact isFile_absolute hnames hdir (Path.isAbsolute_join_name hrel hn)
    (Path.text_ne_of_endsInName (Path.endsInName_join d hn))

/-- Up to the working directory both spellings find the same files. The one from the root goes on to
the directories above it. -/
theorem configsAlong_above {first : String} (hfirst : Path.isName first = true) {r : List String}
    (h : ∀ s ∈ first :: r, '/' ∉ s.toList) :
    w.configsAlong (Path.above "" (r ++ first :: w.directory.reverse)) =
      w.configsAlong (Path.above "" w.directory.reverse) ++
        (w.configsAlong (Path.above first r)).map w.absolute := by
  have hidle : Path.isIdle first = false := (Path.isName_iff.mp hfirst).1
  have hne := Path.ne_empty_of_isName hfirst
  induction r with
  | nil =>
    have hfront := Path.dropWhile_isIdle_names hnames
    have hhere : w.configsIn w.here = (w.configsIn ⟨""⟩).map w.absolute := by
      refine configsIn_absolute hnames hdir rfl fun name hname => ?_
      rw [absolute, show Path.join ⟨""⟩ name = ⟨name⟩ by simp [Path.join]]
    simp only [List.nil_append, Path.above, hidle, Bool.false_eq_true, if_false, hfront, ← here_eq,
      beq_iff_eq, hne, configsAlong_cons, hhere]
    simp [configsAlong]
  | cons part r ih =>
    have hr := Path.slash_skip h
    rw [List.cons_append, Path.above, Path.above]
    by_cases hpart : Path.isIdle part = true
    · rw [if_pos hpart, if_pos hpart]
      exact ih hr
    · have hfront : ((r ++ first :: w.directory.reverse).dropWhile Path.isIdle).reverse =
          w.directory ++ first :: (r.dropWhile Path.isIdle).reverse := by
        rw [List.dropWhile_append, List.dropWhile_cons_of_neg (by simp [hidle])]
        cases r.dropWhile Path.isIdle <;> simp
      have hslash := Path.mem_dropWhile_reverse hr
      have hrel := Path.isAbsolute_build hfirst hslash
      have hhere : w.configsIn (Path.build "" (w.directory ++ first :: (r.dropWhile Path.isIdle).reverse)) =
          (w.configsIn (Path.build first (r.dropWhile Path.isIdle).reverse)).map w.absolute := by
        refine configsIn_absolute hnames hdir hrel fun name hname => ?_
        rw [build_absolute hnames hfirst hslash]
        exact Path.join_join w.here hrel hname
      rw [if_neg hpart, if_neg hpart, hfront, configsAlong_cons, configsAlong_cons, ih hr, hhere,
        List.map_append, List.append_assoc]

theorem configsAlong_absolute {p : Path} (hrel : p.isAbsolute = false) {first : String}
    {rest : List String} (hp : p.parts = first :: rest) (hfirst : Path.isName first = true) :
    w.configsAlong (w.absolute p).parents =
      w.configsAlong w.here.parents ++ (w.configsAlong p.parents).map w.absolute := by
  have hlong : (w.absolute p).parents = Path.above "" (rest.reverse ++ first :: w.directory.reverse) := by
    rw [Path.parents_eq (parts_absolute hnames hrel), hp]
    simp
  rw [hlong, configsAlong_above hnames hdir hfirst (Path.reverse_parts hp), here_eq,
    Path.parents_build (Path.slash_not_mem_names hnames), Path.parents_eq hp]

theorem configOfAll_absolute {ps : List Path} (h : ∀ p ∈ ps, p.isAbsolute = false ∧ p.text ≠ "")
    (front : List Path) :
    w.configOfAll (front ++ ps.map w.absolute) = w.configOfAll (front ++ ps) := by
  rw [configOfAll_append, configOfAll_append, List.foldl_map]
  refine List.foldl_ext _ _ _ fun c p hp => ?_
  exact applyFile_congr (locate_absolute hnames hdir (h p hp).1 (h p hp).2) c

end Names

theorem configFiles_of_isFile {p : Path} (h : w.isFile p = true) :
    w.configFiles p = w.homeConfigs ++ unlisted w.homeConfigs (w.configsAlong p.parents) := by
  have hstart : w.searchStart? p = p.parent? := by simp [searchStart?, h]
  cases hd : p.parent? with
  | some d => rw [configFiles_eq (hstart.trans hd), Path.ancestors_parent hd]
  | none =>
    have hnone : p.parents = [] := List.head?_eq_none_iff.mp hd
    simp [configFiles, hstart, hd, hnone, addNew, homeConfigs, configsAlong, unlisted]

theorem spellings_of_mem {p x : Path} (hrel : p.isAbsolute = false)
    (hx : x ∈ w.configsAlong p.parents) :
    ∃ d ∈ p.parents, x.LiesIn d ∧ (w.absolute x).LiesIn (w.absolute d) ∧
      x.isAbsolute = false ∧ x.text ≠ "" := by
  obtain ⟨d, hd, hxd⟩ := mem_configsAlong.mp hx
  obtain ⟨name, hname, rfl, -⟩ := mem_configsIn.mp hxd
  have hn := isName_of_mem_configNames hname
  have hdrel := Path.isAbsolute_of_mem_parents hrel hd
  have hlies : (w.absolute (d.join name)).LiesIn (w.absolute d) := by
    rw [absolute, ← Path.join_join _ hdrel hn]
    exact ⟨name, Path.components_join _ hn⟩
  exact ⟨d, hd, liesIn_of_mem_configsIn hxd, hlies, Path.isAbsolute_join_name hdrel hn,
    Path.text_ne_of_endsInName (Path.endsInName_join d hn)⟩

/-- A path from the working directory that leads to a file starts in a directory. -/
theorem exists_directory_of_isFile {p : Path} (hrel : p.isAbsolute = false) (h : w.isFile p = true) :
    p.text ≠ "" ∧ ∃ entries, w.files.find? w.directory = some (.directory entries) := by
  have hlocate : ∃ place, w.locate p = .ok place := by
    cases hl : w.locate p with
    | ok place => exact ⟨place, rfl⟩
    | error e => simp [isFile, node?, hl, Except.toOption] at h
  obtain ⟨place, hplace⟩ := hlocate
  have hne : p.text ≠ "" := by
    intro he
    simp [locate, he] at hplace
  refine ⟨hne, ?_⟩
  obtain ⟨first, rest, hp⟩ := List.exists_cons_of_ne_nil p.parts_ne_nil
  cases hdir : w.files.isDirectory w.directory with
  | true =>
    unfold Files.isDirectory at hdir
    split at hdir
    · rename_i entries hentries
      exact ⟨entries, hentries⟩
    · contradiction
  | false =>
    simp only [locate, beq_iff_eq, hne, if_false, base, hrel, Bool.false_eq_true, hp, maxLinks,
      Files.resolve, Files.stroll_cons_of_not_directory hdir, reduceCtorEq] at hplace

end World

/-- Both spellings of a file find the configuration files up to the working directory, and only the
one from the root finds those above it. The home directory apart, the configurations are the same
exactly if these are redundant. -/
theorem configFor_spelling_iff {w : World} {p : Path} (hproper : w.files.root.isProper = true)
    (hrel : p.isAbsolute = false) (hhere : .here ∉ p.components) (hparent : .parent ∉ p.components)
    (hfile : w.isFile p = true) :
    w.configFiles p =
        w.homeConfigs ++ World.unlisted w.homeConfigs (w.configsAlong p.parents) ∧
      w.configFiles (w.absolute p) =
        w.homeConfigs ++ World.unlisted w.homeConfigs
          (w.configsAlong w.here.parents ++ (w.configsAlong p.parents).map w.absolute) ∧
      ((∀ d ∈ p.parents, ¬ w.IsHome d ∧ ¬ w.IsHome (w.absolute d)) →
        (w.configFor (w.absolute p) = w.configFor p ↔
          w.Redundant w.homeConfigs
            (World.unlisted w.homeConfigs (w.configsAlong w.here.parents))
            (w.configsAlong p.parents))) := by
  obtain ⟨hne, entries, hdir⟩ := World.exists_directory_of_isFile hrel hfile
  have hnames : ∀ s ∈ w.directory, Path.isName s = true := (Node.isProper_find? hproper hdir).2
  obtain ⟨first, rest, hp⟩ := List.exists_cons_of_ne_nil p.parts_ne_nil
  have hfirst := Path.isName_first hrel hne hhere hparent hp
  have hshort := World.configFiles_of_isFile hfile
  have hlong : w.configFiles (w.absolute p) =
      w.homeConfigs ++ World.unlisted w.homeConfigs
        (w.configsAlong w.here.parents ++ (w.configsAlong p.parents).map w.absolute) := by
    have hsame := World.isFile_absolute hnames hdir hrel hne
    rw [World.configFiles_of_isFile (hsame.trans hfile),
      World.configsAlong_absolute hnames hdir hrel hp hfirst]
  refine ⟨hshort, hlong, fun hhome => ?_⟩
  -- no file up to the working directory is left out under either spelling
  have hnear : World.unlisted w.homeConfigs (w.configsAlong p.parents) = w.configsAlong p.parents := by
    refine World.unlisted_homeConfigs fun x hx => ?_
    obtain ⟨d, hd, hxd, -⟩ := World.spellings_of_mem hrel hx
    exact ⟨d, hxd, (hhome d hd).1⟩
  have hnear' : World.unlisted w.homeConfigs ((w.configsAlong p.parents).map w.absolute) =
      (w.configsAlong p.parents).map w.absolute := by
    refine World.unlisted_homeConfigs fun x' hx' => ?_
    obtain ⟨x, hx, rfl⟩ := List.mem_map.mp hx'
    obtain ⟨d, hd, -, hxd, -⟩ := World.spellings_of_mem hrel hx
    exact ⟨w.absolute d, hxd, (hhome d hd).2⟩
  have hrels : ∀ x ∈ w.configsAlong p.parents, x.isAbsolute = false ∧ x.text ≠ "" := by
    intro x hx
    obtain ⟨d, -, -, -, hx⟩ := World.spellings_of_mem hrel hx
    exact hx
  have hfor : ∀ q, w.configFor q = w.configOfAll (w.configFiles q) := fun _ => rfl
  rw [hfor, hfor, hshort, hlong, World.unlisted_append, hnear, hnear', ← List.append_assoc,
    World.configOfAll_absolute hnames hdir hrels, List.append_assoc]
  exact World.configOfAll_between_iff ..

/-- A working directory with a manifest and some other files, below a configuration file. -/
def World.nested (others : List (String × Node)) : World where
  files := ⟨.directory [("gemsort.toml", .file (.text "comment_prefix = \"//\"\n")),
    ("app", .directory (("Gemfile", .file (.text "gem 'a'\n")) :: others))]⟩
  directory := ["app"]

/-- One with a configuration file of its own for the same setting. -/
def World.shadowed : World :=
  World.nested [("gemsort.toml", .file (.text "comment_prefix = \"--\"\n"))]

/-- The closer configuration file makes the outer one redundant. -/
theorem configFor_spelling_shadowed :
    World.shadowed.files.root.isProper = true ∧ World.shadowed.isFile ⟨"Gemfile"⟩ = true ∧
      World.shadowed.configFiles ⟨"Gemfile"⟩ = [⟨"gemsort.toml"⟩] ∧
      World.shadowed.configFiles (World.shadowed.absolute ⟨"Gemfile"⟩) =
        [⟨"/gemsort.toml"⟩, ⟨"/app/gemsort.toml"⟩] ∧
      World.shadowed.configFor (World.shadowed.absolute ⟨"Gemfile"⟩) =
        World.shadowed.configFor ⟨"Gemfile"⟩ := by
  have hproper : World.shadowed.files.root.isProper = true := by decide +kernel
  have hfile : World.shadowed.isFile ⟨"Gemfile"⟩ = true := by decide +kernel
  obtain ⟨hshort, hlong, hiff⟩ := configFor_spelling_iff hproper (by decide +kernel)
    (by decide +kernel) (by decide +kernel) hfile
  have hhome : ∀ d, ¬ World.shadowed.IsHome d := by
    rintro d ⟨home, hsome, -⟩
    have hnone : World.shadowed.homeDirectory? = none := rfl
    rw [hnone] at hsome
    cases hsome
  refine ⟨hproper, hfile, hshort.trans (by decide +kernel), hlong.trans (by decide +kernel), ?_⟩
  refine (hiff fun d _ => ⟨hhome _, hhome _⟩).mpr ⟨fun s v hfar hnear => ?_, by decide +kernel⟩
  cases s with
  | commentPrefix =>
    have hsome : World.shadowed.lastGiven .commentPrefix
        (World.shadowed.configsAlong (Path.parents ⟨"Gemfile"⟩)) = some "--" := by decide +kernel
    rw [hsome] at hnear
    cases hnear
  | _ =>
    -- the outer file gives no other setting
    refine absurd hfar (ne_of_eq_of_ne ?_ (Option.some_ne_none v).symm)
    decide +kernel

/-- The path from the working directory does not find the configuration file above it. -/
theorem configFor_spelling_differs :
    (World.nested []).absolute ⟨"Gemfile"⟩ = ⟨"/app/Gemfile"⟩ ∧
      ((World.nested []).configFor ⟨"Gemfile"⟩).commentPrefix = "#" ∧
      ((World.nested []).configFor ⟨"/app/Gemfile"⟩).commentPrefix = "//" := by
  decide +kernel

end GemOrder

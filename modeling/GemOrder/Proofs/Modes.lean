import GemOrder.Proofs.Classes
import GemOrder.Proofs.Places
import GemOrder.Run
import Mathlib

namespace GemOrder

theorem emit_sorted_iff {label text sorted out : String} {mode : Mode} :
    emit label text sorted mode = .ok (.sorted, out) ↔ mode = .write ∧ text ≠ sorted ∧ out = "" := by
  unfold emit
  by_cases h : text = sorted
  · cases mode <;> simp [h]
  · cases mode <;> simp [h, eq_comm]

/-- A mode other than the check gives an outcome; the check says whether the text stays as it is. -/
theorem emit_ok_iff {label text sorted : String} {mode : Mode} :
    (∃ r, emit label text sorted mode = .ok r) ↔ mode ≠ .check ∨ text = sorted := by
  unfold emit
  by_cases h : text = sorted
  · cases mode <;> simp [h]
  · cases mode <;> simp [h]

theorem emit_alreadySorted_iff {label text sorted : String} {mode : Mode} :
    (emit label text sorted mode).map Prod.fst = .ok .alreadySorted ↔ mode ≠ .stdout ∧ text = sorted := by
  unfold emit
  by_cases h : text = sorted
  · cases mode <;> simp [h, Except.map]
  · cases mode <;> simp [h, Except.map]

theorem emit_fst_sorted_iff {label text sorted : String} {mode : Mode} :
    (emit label text sorted mode).map Prod.fst = .ok .sorted ↔ mode = .write ∧ text ≠ sorted := by
  unfold emit
  by_cases h : text = sorted
  · cases mode <;> simp [h, Except.map]
  · cases mode <;> simp [h, Except.map]

namespace World

/-- What sorting a file comes to: the result, and the text that is to be written if there is one. -/
def plan (w : World) (p : Path) (c : Config) (mode : Mode) :
    Except Error (Outcome × String) × Option String :=
  match w.manifestText p, c.vocabulary with
  | .error e, _ => (.error e, none)
  | .ok _, .error fault => (.error (.config fault), none)
  | .ok text, .ok v =>
    (emit p.text text (v.sort text) mode,
      if mode = .write ∧ text ≠ v.sort text then some (v.sort text) else none)

/-- Writes what is to be written. -/
def carryOut (w : World) (p : Path) (text : Option String) : World :=
  text.elim w (w.writeText p)

variable {w : World} {p : Path} {c : Config} {mode : Mode} {text : String} {v : Vocabulary}

theorem plan_of_text (ht : w.manifestText p = .ok text) (hv : c.vocabulary = .ok v) (mode : Mode) :
    w.plan p c mode = (emit p.text text (v.sort text) mode,
      if mode = .write ∧ text ≠ v.sort text then some (v.sort text) else none) := by
  rw [plan, ht, hv]

/-- Sorting a file is planned from what it holds, and then carried out. -/
theorem sortFile_eq (w : World) (p : Path) (c : Config) (mode : Mode) :
    w.sortFile p c mode = (w.carryOut p (w.plan p c mode).2, (w.plan p c mode).1) := by
  unfold sortFile plan
  cases w.manifestText p with
  | error e => rfl
  | ok text =>
    cases c.vocabulary with
    | error fault => rfl
    | ok v =>
      dsimp only
      split
      · rename_i out he
        have hwrite := emit_sorted_iff.mp he
        rw [if_pos ⟨hwrite.1, hwrite.2.1⟩, he]
        rfl
      · rename_i hne
        have hkeep : ¬ (mode = .write ∧ text ≠ v.sort text) :=
          fun h => hne "" (emit_sorted_iff.mpr ⟨h.1, h.2, rfl⟩)
        rw [if_neg hkeep]
        rfl

theorem manifestText_eq_ok_iff :
    w.manifestText p = .ok text ↔
      ∃ content, w.content p = .ok content ∧ content.size ≤ maxFileSize ∧ content.text? = some text := by
  unfold manifestText
  cases w.content p with
  | error cause => simp
  | ok content =>
    simp only [Except.ok.injEq, exists_eq_left']
    by_cases hs : maxFileSize < content.size
    · simp [hs, Nat.not_le.mpr hs]
    · cases content.text? <;> simp [hs, Nat.not_lt.mp hs]

/-- A file that is to be written was read before. -/
theorem plan_eq_some_iff :
    (w.plan p c mode).2 = some text ↔ ∃ old v, w.manifestText p = .ok old ∧ c.vocabulary = .ok v ∧
      mode = .write ∧ old ≠ v.sort old ∧ v.sort old = text := by
  unfold plan
  cases w.manifestText p with
  | error e => simp
  | ok old =>
    cases c.vocabulary with
    | error fault => simp
    | ok v => simp [and_assoc]

/-- Something is to be written exactly if the outcome is that a file was sorted. -/
theorem plan_sorted_iff :
    (w.plan p c mode).1.map Prod.fst = .ok .sorted ↔ ∃ text, (w.plan p c mode).2 = some text := by
  unfold plan
  cases w.manifestText p with
  | error e => simp [Except.map]
  | ok old =>
    cases c.vocabulary with
    | error fault => simp [Except.map]
    | ok v =>
      simp only [emit_fst_sorted_iff]
      split
      · rename_i h
        exact iff_of_true h ⟨_, rfl⟩
      · rename_i h
        exact iff_of_false h (by simp)

theorem isFile_of_manifestText (h : w.manifestText p = .ok text) : w.isFile p = true := by
  obtain ⟨content, hc, -⟩ := manifestText_eq_ok_iff.mp h
  exact isFile_iff.mpr ⟨content, hc⟩

/-- Another world in which the file at a place holds a text, and nothing else is different. -/
structure Rewritten (w w' : World) (place : Location) (text : String) : Prop where
  surroundings : w' = { w with files := w'.files }
  here : w'.files.find? place = some (.file (.text text))
  elsewhere : ∀ q, q ≠ place →
    (w'.files.find? q).map (Node.view id) = (w.files.find? q).map (Node.view id)

theorem rewritten_writeText {place : Location} {content : Content} (hp : w.locate p = .ok place)
    (hf : w.files.find? place = some (.file content)) (text : String) :
    w.Rewritten (w.writeText p text) place text := by
  rw [writeText_of_locate hp]
  refine ⟨rfl, Node.find?_put hf _, fun q hq => ?_⟩
  have hview := Node.view_put hf (.text text) id q
  rwa [if_neg hq] at hview

theorem readText_of_content {content : Content} (hc : w.content p = .ok content)
    (ht : content.text? = some text) : w.readText p = .ok text := by
  simp [readText, hc, ht, bind, Except.bind]

/-- The world behind the sorting of a file. -/
def after (w : World) (p : Path) (c : Config) (mode : Mode) : World :=
  (w.processFile p c mode).value.1

def outcome (w : World) (p : Path) (c : Config) (mode : Mode) : Except Error Outcome :=
  (w.processFile p c mode).value.2.map Prod.fst

theorem processFile_value (w : World) (p : Path) (c : Config) (mode : Mode) :
    (w.processFile p c mode).value = (w.carryOut p (w.plan p c mode).2, (w.plan p c mode).1) :=
  sortFile_eq w p c mode

theorem outcome_eq (w : World) (p : Path) (c : Config) (mode : Mode) :
    w.outcome p c mode = (w.plan p c mode).1.map Prod.fst := by
  rw [outcome, processFile_value]

/-- Without anything to write the world stays as it is. -/
theorem after_of_plan (h : (w.plan p c mode).2 = none) : w.after p c mode = w := by
  rw [after, processFile_value, h]
  rfl

theorem after_of_outcome (h : w.outcome p c mode ≠ .ok .sorted) : w.after p c mode = w := by
  apply after_of_plan
  cases hp : (w.plan p c mode).2 with
  | none => rfl
  | some text =>
    rw [outcome_eq] at h
    exact absurd (plan_sorted_iff.mpr ⟨text, hp⟩) h

/-- A file is reported as sorted if its text was replaced by the sorted one, which differs from it. -/
theorem rewritten_of_sorted (h : w.outcome p c mode = .ok .sorted) :
    ∃ v place old text, c.vocabulary = .ok v ∧ w.locate p = .ok place ∧
      w.files.find? place = some (.file old) ∧ old.text? = some text ∧ v.sort text ≠ text ∧
      w.Rewritten (w.after p c mode) place (v.sort text) := by
  rw [outcome_eq, plan_sorted_iff] at h
  obtain ⟨sorted, hplan⟩ := h
  obtain ⟨text, v, ht, hv, -, hne, rfl⟩ := plan_eq_some_iff.mp hplan
  obtain ⟨old, hold, -, htext⟩ := manifestText_eq_ok_iff.mp ht
  obtain ⟨place, hp, hf⟩ := content_eq_ok_iff.mp hold
  refine ⟨v, place, old, text, hv, hp, hf, htext, Ne.symm hne, ?_⟩
  rw [after, processFile_value, hplan]
  exact rewritten_writeText hp hf (v.sort text)

/-- A world that was written to is another one: the file at the place holds another text. -/
theorem after_ne_of_sorted (h : w.outcome p c mode = .ok .sorted) : w.after p c mode ≠ w := by
  obtain ⟨v, place, old, text, -, -, hf, ht, hne, hre⟩ := rewritten_of_sorted h
  intro he
  have hhere := hre.here
  rw [he, hf, Option.some.injEq, Node.file.injEq] at hhere
  rw [hhere, Content.text?, Option.some.injEq] at ht
  exact hne ht

/-- The world in which the file at a path holds a new text. Nothing is written if that is the text it
held. -/
def replaced (w : World) (p : Path) (text new : String) : World :=
  if text = new then w else w.writeText p new

theorem readText_replaced (ht : w.manifestText p = .ok text) (new : String) :
    (w.replaced p text new).readText p = .ok new := by
  obtain ⟨content, hc, -, htext⟩ := manifestText_eq_ok_iff.mp ht
  unfold replaced
  split
  · rename_i h
    exact h ▸ readText_of_content hc htext
  · exact readText_of_content (content_writeText (isFile_of_manifestText ht) new) rfl

/-- Sorted in its place, a file holds its text sorted. -/
theorem after_write (ht : w.manifestText p = .ok text) (hv : c.vocabulary = .ok v) :
    w.after p c .write = w.replaced p text (v.sort text) := by
  rw [after, processFile_value, plan_of_text ht hv, replaced]
  by_cases h : text = v.sort text
  · rw [if_neg (by simp [← h]), if_pos h]
    rfl
  · rw [if_pos ⟨rfl, h⟩, if_neg h]
    rfl

theorem readText_after (ht : w.manifestText p = .ok text) (hv : c.vocabulary = .ok v) :
    (w.after p c .write).readText p = .ok (v.sort text) := by
  rw [after_write ht hv]
  exact readText_replaced ht _

/-- What the modes say about a file whose text can be sorted: the check passes if there is nothing to
write, nothing to show as a difference, and what would be printed is what the file holds. Sorting the
text by itself prints what the file holds after it was sorted in its place. -/
structure Agreement (w : World) (p : Path) (c : Config) (text : String) : Prop where
  returns : ∀ mode, mode ≠ .check → ∃ r, (w.processFile p c mode).value.2 = .ok r
  check_iff : (∃ outcome, w.outcome p c .check = .ok outcome) ↔
    w.outcome p c .write = .ok .alreadySorted
  diff_iff : w.outcome p c .diff = .ok .alreadySorted ↔ w.outcome p c .write = .ok .alreadySorted
  stdout_iff : (w.processFile p c .stdout).value.2 = .ok (.printed, text) ↔
    w.outcome p c .write = .ok .alreadySorted
  prints : ∃ out, (w.after p c .write).readText p = .ok out ∧
    (w.processFile p c .stdout).value.2 = .ok (.printed, out) ∧
    (processText c text .write).value = .ok (.printed, out) ∧
    (processText c text .stdout).value = .ok (.printed, out)

theorem agreement_of_text (ht : w.manifestText p = .ok text) (hv : c.vocabulary = .ok v) :
    w.Agreement p c text := by
  have hvalue (mode : Mode) :
      (w.processFile p c mode).value.2 = emit p.text text (v.sort text) mode := by
    rw [processFile_value, plan_of_text ht hv]
  have houtcome (mode : Mode) (hm : mode ≠ .stdout) :
      w.outcome p c mode = .ok .alreadySorted ↔ text = v.sort text := by
    rw [outcome, hvalue, emit_alreadySorted_iff]
    simp [hm]
  have hstdout : (w.processFile p c .stdout).value.2 = .ok (.printed, v.sort text) := hvalue .stdout
  refine ⟨?_, ?_, ?_, ?_, v.sort text, ?_, hstdout, ?_, ?_⟩
  · intro mode hm
    rw [hvalue]
    exact emit_ok_iff.mpr (Or.inl hm)
  · rw [houtcome .write (by decide), outcome, hvalue]
    constructor
    · rintro ⟨o, ho⟩
      cases he : emit p.text text (v.sort text) .check with
      | error e => simp [he, Except.map] at ho
      | ok r => simpa using emit_ok_iff.mp ⟨r, he⟩
    · intro h
      obtain ⟨r, hr⟩ := emit_ok_iff.mpr (Or.inr h)
      exact ⟨r.1, by rw [hr]; rfl⟩
  · rw [houtcome .write (by decide), houtcome .diff (by decide)]
  · rw [houtcome .write (by decide), hstdout]
    simp [eq_comm]
  · exact readText_after ht hv
  · rw [processText, hv]
    rfl
  · rw [processText, hv]
    rfl

end World

theorem Arguments.sortNext_value (a : Arguments) (base : Option Config) (s : Session) (p : Path) :
    (a.sortNext base s p).value = a.record s p (a.sortFile s.world base p).value :=
  rfl

theorem Arguments.sortFile_of_config (a : Arguments) (w : World) (c : Config) (p : Path) :
    (a.sortFile w (some c) p).value = ((w.processFile p c a.mode).value.1,
      (w.processFile p c a.mode).value.2.mapError .error) :=
  rfl

/-- A file that fails adds nothing to what a run prints. -/
theorem Arguments.record_out_of_error (a : Arguments) (s : Session) (p : Path) (w : World) (f : Failure) :
    (a.record s p (w, .error f)).out = s.out := by
  rw [record]
  cases f.isNotSorted <;> rfl

/-- The modes on a file. All but one leave every file as it is. That one replaces the file which the
path leads to, and no other, exactly if it reports the file as sorted. A failure changes nothing and
prints nothing. On a file whose text can be sorted the modes agree. -/
theorem processFile_modes (w : World) (p : Path) (c : Config) :
    (∀ mode, mode ≠ .write → w.after p c mode = w) ∧
      (w.after p c .write ≠ w ↔ w.outcome p c .write = .ok .sorted) ∧
      (w.outcome p c .write = .ok .sorted →
        ∃ v place old text, c.vocabulary = .ok v ∧ w.locate p = .ok place ∧
          w.files.find? place = some (.file old) ∧ old.text? = some text ∧ v.sort text ≠ text ∧
          w.Rewritten (w.after p c .write) place (v.sort text)) ∧
      (∀ mode e, (w.processFile p c mode).value.2 = .error e → w.after p c mode = w ∧
        ∀ (a : Arguments) (s : Session), a.mode = mode → s.world = w →
          (a.sortNext (some c) s p).value.out = s.out) ∧
      (∀ content text v, w.content p = .ok content → content.size ≤ maxFileSize →
        content.text? = some text → c.vocabulary = .ok v → w.Agreement p c text) := by
  refine ⟨?_, ?_, World.rewritten_of_sorted, ?_, ?_⟩
  · intro mode hm
    apply World.after_of_plan
    cases hp : (w.plan p c mode).2 with
    | none => rfl
    | some text =>
      obtain ⟨_, _, _, _, hwrite, _⟩ := World.plan_eq_some_iff.mp hp
      exact absurd hwrite hm
  · refine ⟨fun h => ?_, World.after_ne_of_sorted⟩
    by_contra hno
    exact h (World.after_of_outcome hno)
  · intro mode e he
    have hkeep : w.after p c mode = w := by
      apply World.after_of_outcome
      simp [World.outcome, he, Except.map]
    refine ⟨hkeep, ?_⟩
    rintro a s rfl rfl
    rw [a.sortNext_value, a.sortFile_of_config, he]
    exact a.record_out_of_error s p _ (.error e)
  · intro content text v hc hs ht hv
    exact World.agreement_of_text (World.manifestText_eq_ok_iff.mpr ⟨content, hc, hs, ht⟩) hv

/-- A manifest that is reached through a symbolic link, beside another file. -/
def World.linked : World where
  files := ⟨.directory [("app", .directory [("Gemfile", .file (.text "gem 'b'\ngem 'a'\n"))]),
    ("Gemfile", .link "app/Gemfile"), ("notes", .file (.text "b\na\n"))]⟩

set_option maxRecDepth 20000 in
/-- The file behind the link is replaced, and the modes agree on it. -/
theorem processFile_modes_linked :
    World.linked.content ⟨"Gemfile"⟩ = .ok (.text "gem 'b'\ngem 'a'\n") ∧
      World.linked.Agreement ⟨"Gemfile"⟩ {} "gem 'b'\ngem 'a'\n" ∧
      World.linked.outcome ⟨"Gemfile"⟩ {} .write = .ok .sorted ∧
      World.linked.Rewritten (World.linked.after ⟨"Gemfile"⟩ {} .write) ["app", "Gemfile"]
        "gem 'a'\ngem 'b'\n" := by
  have hc : World.linked.content ⟨"Gemfile"⟩ = .ok (.text "gem 'b'\ngem 'a'\n") := by decide +kernel
  have hplace : World.linked.locate ⟨"Gemfile"⟩ = .ok ["app", "Gemfile"] := by decide +kernel
  have hsort : Vocabulary.standard.sort "gem 'b'\ngem 'a'\n" = "gem 'a'\ngem 'b'\n" := by cbv
  have htext : World.linked.manifestText ⟨"Gemfile"⟩ = .ok "gem 'b'\ngem 'a'\n" :=
    World.manifestText_eq_ok_iff.mpr ⟨_, hc, by decide +kernel, rfl⟩
  have hsorted : World.linked.outcome ⟨"Gemfile"⟩ {} .write = .ok .sorted := by
    rw [World.outcome_eq, World.plan_sorted_iff]
    exact ⟨_, World.plan_eq_some_iff.mpr
      ⟨_, _, htext, Config.vocabulary_standard, rfl, by rw [hsort]; decide, rfl⟩⟩
  have hmodes := processFile_modes World.linked ⟨"Gemfile"⟩ {}
  have hagree := hmodes.2.2.2.2 _ _ _ hc (by decide +kernel) rfl Config.vocabulary_standard
  refine ⟨hc, hagree, hsorted, ?_⟩
  obtain ⟨v, place, old, text, hv, hp, hf, ht, -, hre⟩ := hmodes.2.2.1 hsorted
  obtain rfl := Except.ok.inj (Config.vocabulary_standard.symm.trans hv)
  obtain rfl := Except.ok.inj (hplace.symm.trans hp)
  obtain rfl := Except.ok.inj (hc.symm.trans (World.content_eq_ok_iff.mpr ⟨_, hp, hf⟩))
  obtain rfl := Option.some.inj ht
  rwa [hsort] at hre

end GemOrder

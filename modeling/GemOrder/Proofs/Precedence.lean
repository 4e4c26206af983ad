import GemOrder.World.Settings
import Mathlib.Data.List.Basic

namespace GemOrder

namespace Config

/-- The settings with a single value. -/
inductive Setting : Type → Type where
  | declarationKeyword : Setting String
  | scopeKeyword : Setting String
  | closerKeyword : Setting String
  | commentPrefix : Setting String
  | starterKeywords : Setting (List String)
  | manifestNames : Setting (List String)

namespace Setting

variable {α : Type}

/-- What a setting is in a configuration. -/
def get : Setting α → Config → α
  | declarationKeyword, c => c.declarationKeyword
  | scopeKeyword, c => c.scopeKeyword
  | closerKeyword, c => c.closerKeyword
  | commentPrefix, c => c.commentPrefix
  | starterKeywords, c => c.starterKeywords
  | manifestNames, c => c.manifestNames

/-- What a file gives for a setting. -/
def given : Setting α → Overlay → Option α
  | declarationKeyword, o => o.declarationKeyword
  | scopeKeyword, o => o.scopeKeyword
  | closerKeyword, o => o.closerKeyword
  | commentPrefix, o => o.commentPrefix
  | starterKeywords, o => o.starterKeywords
  | manifestNames, o => o.manifestNames

@[simp] theorem get_apply (s : Setting α) (c : Config) (o : Overlay) :
    s.get (c.apply o) = (s.given o).getD (s.get c) := by
  cases s <;> rfl

end Setting

/-- Configurations are the same if all settings are. -/
theorem eq_of_settings {c c' : Config} (h : ∀ {α : Type} (s : Setting α), s.get c = s.get c')
    (he : c.extraStarterKeywords = c'.extraStarterKeywords) : c = c' := by
  have hdeclaration := h .declarationKeyword
  have hscope := h .scopeKeyword
  have hcloser := h .closerKeyword
  have hcomment := h .commentPrefix
  have hstarters := h .starterKeywords
  have hmanifests := h .manifestNames
  cases c
  cases c'
  simp_all [Setting.get]

/-- Words with others behind them, of which each is added once. -/
def addWords (ws more : List String) : List String :=
  more.foldl (fun ws w => if ws.contains w then ws else ws ++ [w]) ws

@[simp] theorem addWords_append (ws more more' : List String) :
    addWords ws (more ++ more') = addWords (addWords ws more) more' :=
  List.foldl_append

/-- The words that are not among some others, each once. -/
def newWords (ws : List String) : List String → List String
  | [] => []
  | w :: more => if w ∈ ws then newWords ws more else w :: newWords (ws ++ [w]) more

theorem addWords_eq (ws more : List String) : addWords ws more = ws ++ newWords ws more := by
  induction more generalizing ws with
  | nil => simp [addWords, newWords]
  | cons w more ih =>
    have hstep : addWords ws (w :: more) = addWords (if ws.contains w then ws else ws ++ [w]) more := rfl
    rw [hstep, ih, newWords]
    by_cases hw : w ∈ ws <;> simp [hw]

theorem newWords_congr {ws ws' : List String} (h : ∀ w, w ∈ ws ↔ w ∈ ws') (more : List String) :
    newWords ws more = newWords ws' more := by
  induction more generalizing ws ws' with
  | nil => rfl
  | cons w more ih =>
    have hmore : ∀ x, x ∈ ws ++ [w] ↔ x ∈ ws' ++ [w] := by simp [h]
    rw [newWords, newWords, ih h, ih hmore]
    simp [h w]

theorem not_mem_of_mem_newWords {ws more : List String} {w : String} (h : w ∈ newWords ws more) :
    w ∉ ws := by
  induction more generalizing ws with
  | nil => contradiction
  | cons x more ih =>
    rw [newWords] at h
    split at h
    · exact ih h
    · rename_i hx
      rcases List.mem_cons.mp h with rfl | h
      · exact hx
      · exact fun hw => ih h (List.mem_append_left _ hw)

/-- Words that are known besides leave the new ones as they come, without them. -/
theorem newWords_append (ws known more : List String) :
    newWords (ws ++ known) more = (newWords ws more).filter fun w => decide (w ∉ known) := by
  induction more generalizing ws with
  | nil => rfl
  | cons w more ih =>
    rw [newWords, newWords]
    by_cases hw : w ∈ ws
    · simp [hw, ih]
    · rw [if_neg hw]
      by_cases hk : w ∈ known
      · have hsame : newWords (ws ++ known) more = newWords (ws ++ [w] ++ known) more := by
          refine newWords_congr (fun x => ?_) more
          by_cases hx : x = w <;> simp [hx, hk]
        rw [if_pos (by simp [hk]), List.filter_cons_of_neg (by simpa using hk), hsame, ih]
      · have hswap : newWords (ws ++ known ++ [w]) more = newWords (ws ++ [w] ++ known) more :=
          newWords_congr (by simp [or_comm]) more
        rw [if_neg (by simp [hw, hk]), List.filter_cons_of_pos (by simpa using hk), hswap, ih]

theorem newWords_nodup (ws more : List String) : (newWords ws more).Nodup := by
  induction more generalizing ws with
  | nil => exact List.nodup_nil
  | cons w more ih =>
    rw [newWords]
    split
    · exact ih ws
    · refine List.nodup_cons.mpr ⟨fun h => not_mem_of_mem_newWords h ?_, ih _⟩
      simp

/-- Words between others change nothing exactly if they would come next anyway. -/
theorem addWords_addWords_iff (ws between more : List String) :
    addWords (addWords ws between) more = addWords ws more ↔
      newWords ws between <+: newWords ws more := by
  rw [addWords_eq (addWords ws between), addWords_eq ws more, addWords_eq ws between,
    newWords_append, List.append_assoc, List.append_cancel_left_eq]
  constructor
  · intro h
    exact ⟨_, h⟩
  · rintro ⟨rest, hrest⟩
    have hnodup := newWords_nodup ws more
    rw [← hrest, List.nodup_append] at hnodup
    rw [← hrest, List.filter_append]
    have hnone : (newWords ws between).filter (fun w => decide (w ∉ newWords ws between)) = [] := by
      simp
    have hall : rest.filter (fun w => decide (w ∉ newWords ws between)) = rest := by
      refine List.filter_eq_self.mpr fun w hw => ?_
      simpa using fun hmem => hnodup.2.2 w hmem w hw rfl
    rw [hnone, hall, List.nil_append]

end Config

namespace World

variable {α : Type} {w : World} {s : Config.Setting α}

/-- What a configuration file gives for a setting. -/
def given? (w : World) (s : Config.Setting α) (p : Path) : Option α :=
  (w.readOverlay p).toOption.bind s.given

/-- What the last file to give a setting gives for it. -/
def lastGiven (w : World) (s : Config.Setting α) (ps : List Path) : Option α :=
  (ps.filterMap (w.given? s)).getLast?

/-- The configuration that files come to. -/
def configOfAll (w : World) (ps : List Path) : Config :=
  ps.foldl w.applyFile {}

@[simp] theorem configOfAll_append (w : World) (ps qs : List Path) :
    w.configOfAll (ps ++ qs) = qs.foldl w.applyFile (w.configOfAll ps) :=
  List.foldl_append

@[simp] theorem get_applyFile (w : World) (s : Config.Setting α) (c : Config) (p : Path) :
    s.get (w.applyFile c p) = (w.given? s p).getD (s.get c) := by
  unfold applyFile given?
  cases w.readOverlay p with
  | error e => rfl
  | ok o => exact s.get_apply c o

/-- The extra starters that a configuration file gives. -/
def extras (w : World) (p : Path) : List String :=
  (w.readOverlay p).toOption.elim [] Config.Overlay.extraStarterKeywords

@[simp] theorem extras_foldl_applyFile (w : World) (c : Config) (ps : List Path) :
    (ps.foldl w.applyFile c).extraStarterKeywords =
      Config.addWords c.extraStarterKeywords (ps.flatMap w.extras) := by
  induction ps generalizing c with
  | nil => rfl
  | cons p ps ih =>
    have hstep : (w.applyFile c p).extraStarterKeywords =
        Config.addWords c.extraStarterKeywords (w.extras p) := by
      unfold applyFile extras
      cases w.readOverlay p <;> rfl
    simp [ih, hstep]

@[simp] theorem lastGiven_append (w : World) (s : Config.Setting α) (ps qs : List Path) :
    w.lastGiven s (ps ++ qs) = (w.lastGiven s qs).or (w.lastGiven s ps) := by
  rw [lastGiven, List.filterMap_append, List.getLast?_append]
  rfl

@[simp] theorem lastGiven_cons (w : World) (s : Config.Setting α) (p : Path) (ps : List Path) :
    w.lastGiven s (p :: ps) = (w.lastGiven s ps).or (w.given? s p) := by
  rw [← List.singleton_append, lastGiven_append]
  congr 1
  unfold lastGiven
  cases hp : w.given? s p <;> simp [hp]

/-- The last file that gives a setting decides. -/
@[simp] theorem get_foldl_applyFile (w : World) (s : Config.Setting α) (c : Config) (ps : List Path) :
    s.get (ps.foldl w.applyFile c) = (w.lastGiven s ps).getD (s.get c) := by
  induction ps generalizing c with
  | nil => rfl
  | cons p ps ih =>
    rw [List.foldl_cons, ih]
    cases h : w.lastGiven s ps <;> simp [h]

/-- Files that count for nothing behind some files and before others: what they give for a setting is
given again behind them or was so before, and the extra starters that they add would come next
anyway. -/
def Redundant (w : World) (before ps behind : List Path) : Prop :=
  (∀ {α : Type} (s : Config.Setting α) (v : α), w.lastGiven s ps = some v →
      w.lastGiven s behind = none → s.get (w.configOfAll before) = v) ∧
    let known := (w.configOfAll before).extraStarterKeywords
    Config.newWords known (ps.flatMap w.extras) <+: Config.newWords known (behind.flatMap w.extras)

theorem configOfAll_between_iff (w : World) (before ps behind : List Path) :
    w.configOfAll (before ++ (ps ++ behind)) = w.configOfAll (before ++ behind) ↔
      w.Redundant before ps behind := by
  have hextras : (w.configOfAll (before ++ (ps ++ behind))).extraStarterKeywords =
        (w.configOfAll (before ++ behind)).extraStarterKeywords ↔
      Config.newWords (w.configOfAll before).extraStarterKeywords (ps.flatMap w.extras) <+:
        Config.newWords (w.configOfAll before).extraStarterKeywords (behind.flatMap w.extras) := by
    rw [← Config.addWords_addWords_iff]
    simp
  have hget : ∀ {α : Type} (s : Config.Setting α),
      s.get (w.configOfAll (before ++ (ps ++ behind))) = s.get (w.configOfAll (before ++ behind)) ↔
        ∀ v, w.lastGiven s ps = some v → w.lastGiven s behind = none →
          s.get (w.configOfAll before) = v := by
    intro α s
    simp only [configOfAll_append, get_foldl_applyFile, lastGiven_append]
    cases w.lastGiven s behind with
    | some v => simp
    | none =>
      cases w.lastGiven s ps with
      | none => simp
      | some v => simp [eq_comm]
  constructor
  · intro h
    exact ⟨fun s => (hget s).mp (congrArg s.get h), hextras.mp (congrArg _ h)⟩
  · intro h
    exact Config.eq_of_settings (fun s => (hget s).mpr (h.1 s)) (hextras.mpr h.2)

/-- A file comes behind another one, and what it gives for a setting holds unless a file behind it
gives something else. -/
def Overrides (w : World) (s : Config.Setting α) (ps : List Path) (q p : Path) : Prop :=
  ∃ front back v, ps = front ++ q :: back ∧ p ∈ front ∧ w.given? s q = some v ∧
    s.get (w.configOfAll ps) = (w.lastGiven s back).getD v

theorem overrides_of_sublist {ps : List Path} {p q : Path} (h : [p, q].Sublist ps) {v : α}
    (hv : w.given? s q = some v) : w.Overrides s ps q p := by
  obtain ⟨front, rest, rfl, hp, hrest⟩ := List.cons_sublist_iff.mp h
  obtain ⟨mid, back, rfl⟩ := List.append_of_mem (List.singleton_sublist.mp hrest)
  refine ⟨front ++ mid, back, v, by simp, List.mem_append_left _ hp, hv, ?_⟩
  rw [configOfAll, get_foldl_applyFile, ← List.append_assoc, lastGiven_append, lastGiven_cons, hv]
  cases w.lastGiven s back <;> rfl

end World

end GemOrder

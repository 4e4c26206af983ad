import GemOrder.Proofs.Modes
import Mathlib

namespace GemOrder

namespace World

variable {w : World} {p q : Path}

theorem plan_congr {w' : World} (h : w'.content p = w.content p) (c : Config) (mode : Mode) :
    w'.plan p c mode = w.plan p c mode := by
  rw [plan, plan, manifestText, manifestText, h]

section CarryOut

variable (h : w.isFile p = true) (text : Option String)

include h

theorem locate_carryOut (q : Path) : (w.carryOut p text).locate q = w.locate q := by
  cases text with
  | none => rfl
  | some text => exact locate_writeText h text q

theorem isFile_carryOut (hq : w.isFile q = true) : (w.carryOut p text).isFile q = true := by
  cases text with
  | none => exact hq
  | some text => exact isFile_writeText h text hq

theorem plan_carryOut (hne : w.locate q ≠ w.locate p) (c : Config) (mode : Mode) :
    (w.carryOut p text).plan q c mode = w.plan q c mode := by
  cases text with
  | none => rfl
  | some text => exact plan_congr (content_writeText_of_ne h text hne) c mode

theorem carryOut_comm (hq : w.isFile q = true) (hne : w.locate p ≠ w.locate q) (text' : Option String) :
    (w.carryOut p text).carryOut q text' = (w.carryOut q text').carryOut p text := by
  cases text with
  | none => rfl
  | some text =>
    cases text' with
    | none => rfl
    | some text' => exact writeText_comm h text hq hne text'

end CarryOut

/-- Writes what is to be written to some files, one after the other. -/
def carryOutAll (w : World) (ts : List (Path × Option String)) : World :=
  ts.foldl (fun w t => w.carryOut t.1 t.2) w

@[simp] theorem carryOutAll_append (w : World) (ts us : List (Path × Option String)) :
    w.carryOutAll (ts ++ us) = (w.carryOutAll ts).carryOutAll us :=
  List.foldl_append

@[simp] theorem carryOutAll_cons (w : World) (t : Path × Option String) (ts : List (Path × Option String)) :
    w.carryOutAll (t :: ts) = (w.carryOut t.1 t.2).carryOutAll ts :=
  rfl

theorem locate_carryOutAll {ts : List (Path × Option String)} (h : ∀ t ∈ ts, w.isFile t.1 = true)
    (q : Path) : (w.carryOutAll ts).locate q = w.locate q := by
  induction ts generalizing w with
  | nil => rfl
  | cons t ts ih =>
    have ht := h t (by simp)
    rw [carryOutAll_cons, ih, locate_carryOut ht]
    exact fun u hu => isFile_carryOut ht _ (h u (by simp [hu]))

theorem isFile_carryOutAll {ts : List (Path × Option String)} (h : ∀ t ∈ ts, w.isFile t.1 = true)
    (hq : w.isFile q = true) : (w.carryOutAll ts).isFile q = true := by
  induction ts generalizing w with
  | nil => exact hq
  | cons t ts ih =>
    have ht := h t (by simp)
    rw [carryOutAll_cons]
    exact ih (fun u hu => isFile_carryOut ht _ (h u (by simp [hu]))) (isFile_carryOut ht _ hq)

/-- Files are there, and a path leads to none of them. -/
def Avoids (w : World) (p : Path) (ts : List (Path × Option String)) : Prop :=
  ∀ t ∈ ts, w.isFile t.1 = true ∧ w.locate p ≠ w.locate t.1

theorem Avoids.tail {t : Path × Option String} {ts : List (Path × Option String)}
    (h : w.Avoids p (t :: ts)) : (w.carryOut t.1 t.2).Avoids p ts := by
  have ht := (h t (by simp)).1
  intro u hu
  obtain ⟨hf, hne⟩ := h u (by simp [hu])
  refine ⟨isFile_carryOut ht _ hf, ?_⟩
  rwa [locate_carryOut ht, locate_carryOut ht]

/-- What is to be done with a file does not depend on what was written to others. -/
theorem Avoids.plan {ts : List (Path × Option String)} (h : w.Avoids p ts) (c : Config) (mode : Mode) :
    (w.carryOutAll ts).plan p c mode = w.plan p c mode := by
  induction ts generalizing w with
  | nil => rfl
  | cons t ts ih =>
    obtain ⟨hf, hne⟩ := h t (by simp)
    rw [carryOutAll_cons, ih h.tail, plan_carryOut hf _ hne]

/-- A file can be written before others or behind them. -/
theorem Avoids.carryOut {ts : List (Path × Option String)} (h : w.Avoids p ts) (hp : w.isFile p = true)
    (text : Option String) :
    (w.carryOut p text).carryOutAll ts = (w.carryOutAll ts).carryOut p text := by
  induction ts generalizing w with
  | nil => rfl
  | cons t ts ih =>
    obtain ⟨hf, hne⟩ := h t (by simp)
    rw [carryOutAll_cons, carryOutAll_cons, carryOut_comm hp text hf hne, ih h.tail]
    exact isFile_carryOut hf _ hp

/-- Paths that lead to files, no two of them to the same one. -/
structure Distinct (w : World) (ps : List Path) : Prop where
  files : ∀ p ∈ ps, w.isFile p = true
  apart : ps.Pairwise fun p q => w.locate p ≠ w.locate q

/-- Writing to the first of several files leaves the others as they are. -/
theorem Distinct.carryOut {ps : List Path} (h : w.Distinct (p :: ps)) (text : Option String) :
    (w.carryOut p text).Distinct ps ∧
      ∀ q ∈ ps, ∀ c mode, (w.carryOut p text).plan q c mode = w.plan q c mode := by
  have hp := h.files p (by simp)
  obtain ⟨hfirst, hrest⟩ := List.pairwise_cons.mp h.apart
  refine ⟨⟨?_, ?_⟩, ?_⟩
  · intro q hq
    exact isFile_carryOut hp text (h.files q (by simp [hq]))
  · simpa only [locate_carryOut hp] using hrest
  · intro q hq c mode
    exact plan_carryOut hp text (Ne.symm (hfirst q hq)) c mode

end World

/-- What the result of a file adds to a run. -/
def Arguments.share (a : Arguments) (p : Path) (r : Except Error (Outcome × String)) : Session :=
  a.record { world := { files := {} } } p ({ files := {} }, r.mapError .error)

theorem Arguments.record_eq (a : Arguments) (s : Session) (p : Path) (w : World)
    (r : Except Error (Outcome × String)) :
    a.record s p (w, r.mapError .error) =
      { world := w
        out := s.out ++ (a.share p r).out
        notes := s.notes ++ (a.share p r).notes
        unsorted := s.unsorted + (a.share p r).unsorted
        failed := s.failed + (a.share p r).failed } := by
  cases r with
  | error e =>
    simp only [share, Except.mapError, record]
    cases (Failure.error e).isNotSorted <;> simp
  | ok r =>
    obtain ⟨outcome, out⟩ := r
    cases outcome <;> simp [share, Except.mapError, record]

/-- A run that holds what some files add to it, whatever the order in which they were added. -/
structure Session.Collects (s : Session) (shares : List Session) : Prop where
  unsorted : s.unsorted = (shares.map Session.unsorted).sum
  failed : s.failed = (shares.map Session.failed).sum
  notes : s.notes.Perm (shares.flatMap Session.notes)

namespace Session

variable {s : Session} {shares shares' : List Session}

theorem Collects.perm (h : s.Collects shares) (hp : shares.Perm shares') : s.Collects shares' where
  unsorted := h.unsorted.trans (hp.map _).sum_eq
  failed := h.failed.trans (hp.map _).sum_eq
  notes := h.notes.trans (hp.flatMap_right _)

theorem Collects.record (h : s.Collects shares) (a : Arguments) (p : Path) (w : World)
    (r : Except Error (Outcome × String)) :
    (a.record s p (w, r.mapError .error)).Collects (a.share p r :: shares) := by
  rw [a.record_eq]
  refine ⟨?_, ?_, ?_⟩
  · simp [h.unsorted, Nat.add_comm]
  · simp [h.failed, Nat.add_comm]
  · exact (h.notes.append_right _).trans List.perm_append_comm

end Session

/-- How far a worker has come. -/
inductive Phase where
  | waiting
  /-- The file was read, and a text is to be written to it. -/
  | writing (result : Except Error (Outcome × String)) (text : String)
  /-- Nothing is left but to report the result. -/
  | reporting (result : Except Error (Outcome × String))
  | done

namespace Phase

/-- What a worker does next, once its file was read. -/
def ofPlan : Except Error (Outcome × String) × Option String → Phase
  | (result, some text) => .writing result text
  | (result, none) => .reporting result

/-- What a worker has written so far, if `text` is what it has to write. -/
def written (text : Option String) : Phase → Option String
  | .waiting | .writing _ _ => none
  | .reporting _ | .done => text

/-- What a worker has reported so far, if `share` is what its result adds to the run. -/
def reported (share : Session) : Phase → List Session
  | .done => [share]
  | _ => []

/-- The phases of a worker whose file asks for a plan. -/
def Fits (plan : Except Error (Outcome × String) × Option String) : Phase → Prop
  | .waiting | .done => True
  | .writing result text => plan = (result, some text)
  | .reporting result => plan.1 = result

theorem ofPlan_fits (plan : Except Error (Outcome × String) × Option String) :
    (ofPlan plan).Fits plan := by
  obtain ⟨result, _ | text⟩ := plan <;> exact rfl

theorem ofPlan_written (plan : Except Error (Outcome × String) × Option String) :
    (ofPlan plan).written plan.2 = none := by
  obtain ⟨result, _ | text⟩ := plan <;> rfl

theorem ofPlan_reported (plan : Except Error (Outcome × String) × Option String) (share : Session) :
    (ofPlan plan).reported share = [] := by
  obtain ⟨result, _ | text⟩ := plan <;> rfl

/-- The most steps that a worker can still take. -/
def left : Phase → Nat
  | .waiting => 3
  | .writing _ _ => 2
  | .reporting _ => 1
  | .done => 0

end Phase

/-- Workers with their files, and what they share. -/
structure Pool where
  session : Session
  workers : List (Path × Phase)

namespace Pool

/-- No worker has begun. -/
def start (w : World) (ps : List Path) : Pool where
  session := { world := w }
  workers := ps.map fun p => (p, .waiting)

/-- The next step of a worker. -/
def advance (a : Arguments) (c : Config) (s : Session) (p : Path) : Phase → Session × Phase
  | .waiting => (s, .ofPlan (s.world.plan p c a.mode))
  | .writing result text => ({ s with world := s.world.writeText p text }, .reporting result)
  | .reporting result => (a.record s p (s.world, result.mapError .error), .done)
  | .done => (s, .done)

/-- The worker with number `i` takes its next step, if there is one. -/
def step (a : Arguments) (c : Config) (s : Pool) (i : Nat) : Pool :=
  match s.workers[i]? with
  | none => s
  | some (p, phase) =>
    let (session, next) := advance a c s.session p phase
    ⟨session, s.workers.set i (p, next)⟩

/-- Workers take steps in the order of their numbers in a schedule. -/
def run (a : Arguments) (c : Config) (s : Pool) (schedule : List Nat) : Pool :=
  schedule.foldl (step a c) s

/-- All workers have finished. -/
def Done (s : Pool) : Prop :=
  ∀ p phase, (p, phase) ∈ s.workers → phase = .done

variable {a : Arguments} {c : Config}

/-- A step is one of a worker that is there, or nothing happens. -/
theorem step_cases (a : Arguments) (c : Config) (s : Pool) (i : Nat) :
    step a c s i = s ∨ ∃ before p phase behind, s.workers = before ++ (p, phase) :: behind ∧
      step a c s i = ⟨(advance a c s.session p phase).1,
        before ++ (p, (advance a c s.session p phase).2) :: behind⟩ := by
  unfold step
  cases hi : s.workers[i]? with
  | none => exact Or.inl rfl
  | some x =>
    obtain ⟨p, phase⟩ := x
    obtain ⟨hlt, hget⟩ := List.getElem?_eq_some_iff.mp hi
    refine Or.inr ⟨s.workers.take i, p, phase, s.workers.drop (i + 1), ?_, ?_⟩
    · rw [← hget, List.getElem_cons_drop, List.take_append_drop]
    · simp only [List.set_eq_take_append_cons_drop, if_pos hlt]

/-- A step changes the files by what the worker has to write, and nothing that other workers wrote
matters to it: in `w` their files are written already. -/
theorem advance_world {w : World} {s : Session} {p : Path} {phase : Phase}
    (hfits : phase.Fits (w.plan p c a.mode))
    (hworld : s.world = w.carryOut p (phase.written (w.plan p c a.mode).2)) :
    (advance a c s p phase).2.Fits (w.plan p c a.mode) ∧
      (advance a c s p phase).1.world =
        w.carryOut p ((advance a c s p phase).2.written (w.plan p c a.mode).2) := by
  cases phase with
  | waiting =>
    have hw : s.world = w := hworld
    rw [advance, hw]
    refine ⟨Phase.ofPlan_fits _, ?_⟩
    rw [Phase.ofPlan_written]
    rfl
  | writing result text =>
    have hw : s.world = w := hworld
    have hplan : w.plan p c a.mode = (result, some text) := hfits
    rw [advance, hplan, hw]
    exact ⟨rfl, rfl⟩
  | reporting result =>
    rw [advance, a.record_eq]
    exact ⟨trivial, hworld⟩
  | done => exact ⟨trivial, hworld⟩

theorem advance_collects {w : World} {s : Session} {p : Path} {phase : Phase} {shares : List Session}
    (hfits : phase.Fits (w.plan p c a.mode))
    (hs : s.Collects (phase.reported (a.share p (w.plan p c a.mode).1) ++ shares)) :
    (advance a c s p phase).1.Collects
      ((advance a c s p phase).2.reported (a.share p (w.plan p c a.mode).1) ++ shares) := by
  cases phase with
  | waiting =>
    rw [advance, Phase.ofPlan_reported]
    exact hs
  | writing result text => exact ⟨hs.unsorted, hs.failed, hs.notes⟩
  | reporting result =>
    have hplan : (w.plan p c a.mode).1 = result := hfits
    rw [hplan] at hs ⊢
    exact hs.record a p s.world result
  | done => exact hs

/-- What some workers have written to files that were as in `w`. -/
def writes (a : Arguments) (c : Config) (w : World) (xs : List (Path × Phase)) :
    List (Path × Option String) :=
  xs.map fun x => (x.1, x.2.written (w.plan x.1 c a.mode).2)

/-- What some workers have reported of files that were as in `w`. -/
def reports (a : Arguments) (c : Config) (w : World) (xs : List (Path × Phase)) : List Session :=
  xs.flatMap fun x => x.2.reported (a.share x.1 (w.plan x.1 c a.mode).1)

@[simp] theorem writes_append (a : Arguments) (c : Config) (w : World) (xs ys : List (Path × Phase)) :
    writes a c w (xs ++ ys) = writes a c w xs ++ writes a c w ys :=
  List.map_append

/-- What one worker has reported can be counted first. -/
theorem reports_perm (a : Arguments) (c : Config) (w : World) (before behind : List (Path × Phase))
    (p : Path) (phase : Phase) :
    (reports a c w (before ++ (p, phase) :: behind)).Perm
      (phase.reported (a.share p (w.plan p c a.mode).1) ++ reports a c w (before ++ behind)) := by
  simp only [reports, List.flatMap_append, List.flatMap_cons]
  exact List.perm_append_comm_assoc _ _ _

/-- What holds of workers on some files at all times: each of them goes by what its file held in the
beginning, the files are changed by what was written so far, and the run has collected what was
reported so far. -/
structure Reached (a : Arguments) (c : Config) (w : World) (ps : List Path) (s : Pool) : Prop where
  paths : s.workers.map Prod.fst = ps
  fits : ∀ x ∈ s.workers, x.2.Fits (w.plan x.1 c a.mode)
  world : s.session.world = w.carryOutAll (writes a c w s.workers)
  collects : s.session.Collects (reports a c w s.workers)

variable {w : World} {ps : List Path}

theorem reached_start (a : Arguments) (c : Config) (w : World) (ps : List Path) :
    Reached a c w ps (start w ps) := by
  have hwrites (qs : List Path) :
      w.carryOutAll (writes a c w (qs.map fun p => (p, .waiting))) = w := by
    induction qs with
    | nil => rfl
    | cons q qs ih => exact ih
  have hreports (qs : List Path) : reports a c w (qs.map fun p => (p, .waiting)) = [] := by
    induction qs with
    | nil => rfl
    | cons q qs ih => exact ih
  refine ⟨?_, ?_, (hwrites ps).symm, ?_⟩
  · simp [start, Function.comp_def]
  · intro x hx
    obtain ⟨p, -, rfl⟩ := List.mem_map.mp hx
    trivial
  · rw [start, hreports]
    exact ⟨rfl, rfl, .refl _⟩

/-- The other workers' files are not the file of a worker. -/
theorem avoids_others {before behind : List (Path × Phase)} {p : Path} {phase : Phase}
    (hd : w.Distinct ((before ++ (p, phase) :: behind).map Prod.fst)) :
    w.Avoids p (writes a c w (before ++ behind)) := by
  have hapart := hd.apart
  rw [List.map_append, List.map_cons, List.pairwise_middle Ne.symm, ← List.map_append] at hapart
  intro t ht
  obtain ⟨x, hx, rfl⟩ := List.mem_map.mp ht
  refine ⟨hd.files x.1 (List.mem_map_of_mem ?_), ?_⟩
  · exact List.mem_append.mpr ((List.mem_append.mp hx).imp_right (List.mem_cons_of_mem _))
  · exact (List.pairwise_cons.mp hapart).1 x.1 (List.mem_map_of_mem hx)

/-- What one worker has written can be counted last. -/
theorem carryOutAll_writes {before behind : List (Path × Phase)} {p : Path} {phase : Phase}
    (hd : w.Distinct ((before ++ (p, phase) :: behind).map Prod.fst)) :
    w.carryOutAll (writes a c w (before ++ (p, phase) :: behind)) =
      (w.carryOutAll (writes a c w (before ++ behind))).carryOut p
        (phase.written (w.plan p c a.mode).2) := by
  have hp : w.isFile p = true := hd.files p (by simp)
  have havoid := avoids_others (a := a) (c := c) hd
  rw [writes_append] at havoid
  have hbefore : ∀ t ∈ writes a c w before, w.isFile t.1 = true := by
    intro t ht
    exact (havoid t (List.mem_append_left _ ht)).1
  have hbehind : (w.carryOutAll (writes a c w before)).Avoids p (writes a c w behind) := by
    intro t ht
    obtain ⟨hf, hne⟩ := havoid t (List.mem_append_right _ ht)
    refine ⟨World.isFile_carryOutAll hbefore hf, ?_⟩
    rwa [World.locate_carryOutAll hbefore, World.locate_carryOutAll hbefore]
  rw [writes_append, writes_append, World.carryOutAll_append, World.carryOutAll_append]
  exact hbehind.carryOut (World.isFile_carryOutAll hbefore hp) _

/-- A step keeps what holds of workers on different files. -/
theorem Reached.step {s : Pool} (h : Reached a c w ps s) (hd : w.Distinct ps) (i : Nat) :
    Reached a c w ps (step a c s i) := by
  obtain hsame | ⟨before, p, phase, behind, hs, hstep⟩ := step_cases a c s i
  · rwa [hsame]
  · have hdistinct (phase' : Phase) :
        w.Distinct ((before ++ (p, phase') :: behind).map Prod.fst) := by
      rw [← h.paths, hs] at hd
      simpa using hd
    -- the other workers' writes come first, so that this worker acts on its own file alone
    have hplan := (avoids_others (a := a) (c := c) (hdistinct phase)).plan c a.mode
    have hfits : phase.Fits (w.plan p c a.mode) := h.fits (p, phase) (by simp [hs])
    have hworld := h.world
    rw [hs, carryOutAll_writes (hdistinct phase), ← hplan] at hworld
    obtain ⟨hfits', hworld'⟩ := advance_world (hplan ▸ hfits) hworld
    have hcollects := h.collects.perm (hs ▸ reports_perm a c w before behind p phase)
    rw [hplan] at hfits' hworld'
    rw [hstep]
    refine ⟨?_, ?_, ?_, ?_⟩
    · rw [← h.paths, hs]
      simp
    · intro x hx
      rcases List.mem_append.mp hx with hx | hx
      · exact h.fits x (by simp [hs, hx])
      · rcases List.mem_cons.mp hx with rfl | hx
        · exact hfits'
        · exact h.fits x (by simp [hs, hx])
    · rw [carryOutAll_writes (hdistinct _)]
      exact hworld'
    · exact (advance_collects hfits hcollects).perm (reports_perm a c w before behind p _).symm

theorem Reached.run {s : Pool} (h : Reached a c w ps s) (hd : w.Distinct ps) (schedule : List Nat) :
    Reached a c w ps (run a c s schedule) := by
  induction schedule generalizing s with
  | nil => exact h
  | cons i schedule ih => exact ih (h.step hd i)

/-- When all workers have finished, every file was written that had to be, and every result was
reported. -/
theorem Reached.done {s : Pool} (h : Reached a c w ps s) (hs : s.Done) :
    s.session.world = w.carryOutAll (ps.map fun p => (p, (w.plan p c a.mode).2)) ∧
      s.session.Collects (ps.map fun p => a.share p (w.plan p c a.mode).1) := by
  have hphase : ∀ x ∈ s.workers, x.2 = .done := fun x hx => hs x.1 x.2 hx
  have hwrites : writes a c w s.workers = ps.map fun p => (p, (w.plan p c a.mode).2) := by
    rw [← h.paths, List.map_map]
    apply List.map_congr_left
    intro x hx
    rw [hphase x hx]
    rfl
  have hreports : reports a c w s.workers = ps.map fun p => a.share p (w.plan p c a.mode).1 := by
    rw [← h.paths, List.map_map, ← List.flatMap_pure_eq_map]
    apply List.flatMap_congr
    intro x hx
    rw [hphase x hx]
    rfl
  rw [← hwrites, ← hreports]
  exact ⟨h.world, h.collects⟩

/-- The most steps that the worker with number `i` can still take. -/
def left (s : Pool) (i : Nat) : Nat :=
  s.workers[i]?.elim 0 fun x => x.2.left

theorem advance_left (a : Arguments) (c : Config) (s : Session) (p : Path) (phase : Phase) :
    (advance a c s p phase).2.left ≤ phase.left - 1 := by
  cases phase with
  | waiting =>
    rw [advance]
    obtain ⟨result, _ | text⟩ := s.world.plan p c a.mode <;> simp [Phase.ofPlan, Phase.left]
  | writing result text => simp [advance, Phase.left]
  | reporting result => simp [advance, Phase.left]
  | done => simp [advance, Phase.left]

theorem left_step (a : Arguments) (c : Config) (s : Pool) (i j : Nat) :
    (step a c s i).left j ≤ s.left j - [i].count j := by
  unfold step
  cases hi : s.workers[i]? with
  | none =>
    by_cases hij : i = j
    · subst hij
      simp [left, hi]
    · simp [hij]
  | some x =>
    obtain ⟨p, phase⟩ := x
    obtain ⟨hlt, hget⟩ := List.getElem?_eq_some_iff.mp hi
    by_cases hij : i = j
    · subst hij
      simpa [left, hlt, hget] using advance_left a c s.session p phase
    · simp [left, hij]

theorem left_run (a : Arguments) (c : Config) (s : Pool) (schedule : List Nat) (j : Nat) :
    (run a c s schedule).left j ≤ s.left j - schedule.count j := by
  induction schedule generalizing s with
  | nil => simp [run]
  | cons i schedule ih =>
    have hrun := ih (step a c s i)
    have hstep := left_step a c s i j
    rw [← List.singleton_append, List.count_append]
    change (run a c (step a c s i) schedule).left j ≤ _
    omega

@[simp] theorem length_run (a : Arguments) (c : Config) (s : Pool) (schedule : List Nat) :
    (run a c s schedule).workers.length = s.workers.length := by
  induction schedule generalizing s with
  | nil => rfl
  | cons i schedule ih =>
    refine (ih (step a c s i)).trans ?_
    unfold step
    cases s.workers[i]? <;> simp

/-- Three steps are enough for each worker to finish. -/
theorem done_of_count (a : Arguments) (c : Config) (w : World) {ps : List Path} {schedule : List Nat}
    (h : ∀ i, i < ps.length → 3 ≤ schedule.count i) : (run a c (start w ps) schedule).Done := by
  intro p phase hx
  obtain ⟨i, hlt, hget⟩ := List.getElem_of_mem hx
  rw [length_run, start, List.length_map] at hlt
  have hleft := left_run a c (start w ps) schedule i
  have hthree : (start w ps).left i = 3 := by simp [left, start, hlt, Phase.left]
  have hcount := h i hlt
  have hzero : phase.left = 0 := by
    have hphase : (run a c (start w ps) schedule).left i = phase.left := by
      rw [left, List.getElem?_eq_getElem (by simpa [start] using hlt), hget]
      rfl
    omega
  cases phase with
  | done => rfl
  | waiting => contradiction
  | writing result text => contradiction
  | reporting result => contradiction

end Pool

@[simp] theorem Logged.value_foldlM {α β : Type} (f : β → α → Logged β) (b : β) (as : List α) :
    (as.foldlM f b).value = as.foldl (fun b a => (f b a).value) b := by
  induction as generalizing b with
  | nil => rfl
  | cons a as ih => exact ih (f b a).value

namespace Arguments

variable (a : Arguments) (c : Config)

theorem sortNext_eq (s : Session) (p : Path) :
    (a.sortNext (some c) s p).value = a.record s p
      (s.world.carryOut p (s.world.plan p c a.mode).2, (s.world.plan p c a.mode).1.mapError .error) := by
  rw [a.sortNext_value, a.sortFile_of_config, World.processFile_value]

/-- Files that are sorted one after the other are each found as they were in the beginning. -/
theorem foldl_sortNext {ps : List Path} {s : Session} {shares : List Session}
    (hd : s.world.Distinct ps) (hs : s.Collects shares) :
    (ps.foldl (fun s p => (a.sortNext (some c) s p).value) s).world =
        s.world.carryOutAll (ps.map fun p => (p, (s.world.plan p c a.mode).2)) ∧
      (ps.foldl (fun s p => (a.sortNext (some c) s p).value) s).Collects
        ((ps.map fun p => a.share p (s.world.plan p c a.mode).1) ++ shares) := by
  induction ps generalizing s shares with
  | nil => exact ⟨rfl, hs⟩
  | cons p ps ih =>
    obtain ⟨hd', hplan⟩ := hd.carryOut (s.world.plan p c a.mode).2
    have hs' := hs.record a p (s.world.carryOut p (s.world.plan p c a.mode).2)
      (s.world.plan p c a.mode).1
    have hworld : (a.sortNext (some c) s p).value.world =
        s.world.carryOut p (s.world.plan p c a.mode).2 := by
      rw [sortNext_eq, a.record_eq]
    rw [← sortNext_eq] at hs'
    rw [← hworld] at hd' hplan
    obtain ⟨hw, hc⟩ := ih hd' hs'
    have hsame {α : Type} (f : Path → Except Error (Outcome × String) × Option String → α) :
        (ps.map fun q => f q ((a.sortNext (some c) s p).value.world.plan q c a.mode)) =
          ps.map fun q => f q (s.world.plan q c a.mode) :=
      List.map_congr_left fun q hq => by rw [hplan q hq]
    rw [hsame fun q plan => (q, plan.2), hworld] at hw
    rw [hsame fun q plan => a.share q plan.1] at hc
    exact ⟨hw, hc.perm List.perm_middle⟩

theorem sortFiles_value (w : World) (ps : List Path) :
    (a.sortFiles w (some c) ps).value =
      ps.foldl (fun s p => (a.sortNext (some c) s p).value) { world := w } :=
  Logged.value_foldlM _ _ _

theorem sortFiles_collects {w : World} {ps : List Path} (hd : w.Distinct ps) :
    (a.sortFiles w (some c) ps).value.world =
        w.carryOutAll (ps.map fun p => (p, (w.plan p c a.mode).2)) ∧
      (a.sortFiles w (some c) ps).value.Collects (ps.map fun p => a.share p (w.plan p c a.mode).1) := by
  have hempty : Session.Collects { world := w } [] := ⟨rfl, rfl, .refl _⟩
  have h := a.foldl_sortNext c hd hempty
  rwa [List.append_nil, ← sortFiles_value] at h

end Arguments

namespace World

/-- Sorting a file fails with an error other than that it is not sorted. -/
def fails (w : World) (p : Path) (c : Config) (mode : Mode) : Bool :=
  match w.outcome p c mode with
  | .error e => !e.isNotSorted
  | .ok _ => false

/-- Sorting a file fails since it is not sorted. -/
def isUnsorted (w : World) (p : Path) (c : Config) (mode : Mode) : Bool :=
  match w.outcome p c mode with
  | .error e => e.isNotSorted
  | .ok _ => false

variable (w : World) (p : Path) (c : Config) (a : Arguments)

/-- A result is counted as a failure, as a file that is not sorted, or not at all. -/
theorem share_counts :
    (a.share p (w.plan p c a.mode).1).failed = (w.fails p c a.mode).toNat ∧
      (a.share p (w.plan p c a.mode).1).unsorted = (w.isUnsorted p c a.mode).toNat := by
  rw [fails, isUnsorted, outcome_eq, Arguments.share]
  cases (w.plan p c a.mode).1 with
  | error e =>
    simp only [Except.mapError, Except.map, Arguments.record, Failure.isNotSorted]
    by_cases he : e.isNotSorted = true <;> simp [he]
  | ok r =>
    obtain ⟨outcome, out⟩ := r
    cases outcome <;> exact ⟨rfl, rfl⟩

end World

/-- The exit status goes by the worst that happened to a file. -/
theorem Session.Collects.exit_of_files {s : Session} {a : Arguments} {c : Config} {w : World}
    {ps : List Path} (h : s.Collects (ps.map fun p => a.share p (w.plan p c a.mode).1)) :
    s.exit = if ps.any (w.fails · c a.mode) then 2
      else if ps.any (w.isUnsorted · c a.mode) then 1 else 0 := by
  have hpos (f : Path → Bool) : 0 < (ps.map fun p => (f p).toNat).sum ↔ ps.any f = true := by
    rw [Nat.pos_iff_ne_zero, ne_eq, List.sum_eq_zero_iff, List.any_eq_true]
    simp
  have hfailed := h.failed
  have hunsorted := h.unsorted
  simp only [List.map_map, Function.comp_def, World.share_counts] at hfailed hunsorted
  rw [exit, hfailed, hunsorted]
  simp only [hpos]

/-- A run over files ends with what sorting them one after the other comes to. -/
theorem Arguments.runFiles_value {a : Arguments} {c : Config} {w : World} {ps : List Path}
    (hb : (a.baseConfig w).value = .ok (some c)) (hm : (a.manifests w (some c)).value = .ok ps) :
    ∃ r, (a.runFiles w).value = .ok r ∧ r.world = (a.sortFiles w (some c) ps).value.world ∧
      r.exit = (a.sortFiles w (some c) ps).value.exit := by
  simp only [runFiles, bind, Logged.bind, hb, hm]
  cases ps with
  | nil => exact ⟨_, rfl, rfl, rfl⟩
  | cons p ps => exact ⟨_, rfl, rfl, rfl⟩

/-- Workers on different files come to the same files, the same exit status and, but for their order,
the same messages as sorting the files one after the other, in whatever order they take their steps.
Three steps are enough for each of them. -/
theorem interleaved_eq_sequential (a : Arguments) (c : Config) {w : World} {ps : List Path}
    (hd : w.Distinct ps) :
    (∀ schedule, (∀ i, i < ps.length → 3 ≤ schedule.count i) →
        (Pool.run a c (.start w ps) schedule).Done) ∧
      ∀ schedule final, Pool.run a c (.start w ps) schedule = final → final.Done →
        final.session.world = (a.sortFiles w (some c) ps).value.world ∧
        final.session.exit = (a.sortFiles w (some c) ps).value.exit ∧
        final.session.notes.Perm (a.sortFiles w (some c) ps).value.notes ∧
        final.session.exit = (if ps.any (w.fails · c a.mode) then 2
          else if ps.any (w.isUnsorted · c a.mode) then 1 else 0) ∧
        ((a.baseConfig w).value = .ok (some c) → (a.manifests w (some c)).value = .ok ps →
          ∃ r, (a.runFiles w).value = .ok r ∧ r.world = final.session.world ∧
            r.exit = final.session.exit) := by
  refine ⟨fun schedule => Pool.done_of_count a c w, ?_⟩
  rintro schedule final rfl hdone
  obtain ⟨hworld, hcollects⟩ := ((Pool.reached_start a c w ps).run hd schedule).done hdone
  obtain ⟨hworld', hcollects'⟩ := a.sortFiles_collects c hd
  have hexit := hcollects.exit_of_files.trans hcollects'.exit_of_files.symm
  refine ⟨hworld.trans hworld'.symm, hexit, hcollects.notes.trans hcollects'.notes.symm,
    hcollects.exit_of_files, fun hb hm => ?_⟩
  obtain ⟨r, hr, hw, he⟩ := Arguments.runFiles_value hb hm
  exact ⟨r, hr, hw.trans (hworld'.trans hworld.symm), he.trans hexit.symm⟩

/-- Two files, of which one is reached through a link and the other is no text. -/
def World.pair : World where
  files := ⟨.directory [("app", .directory [("Gemfile", .file (.text "gem 'b'\ngem 'a'\n"))]),
    ("Gemfile", .link "app/Gemfile"), ("gems.rb", .file (.raw [0xFF]))]⟩

/-- The first worker writes between the steps of the second, which fails. -/
theorem interleaved_eq_sequential_pair :
    World.pair.Distinct [⟨"Gemfile"⟩, ⟨"gems.rb"⟩] ∧
      (Pool.run {} {} (.start World.pair [⟨"Gemfile"⟩, ⟨"gems.rb"⟩]) [1, 0, 0, 1, 1, 0]).Done ∧
      (Pool.run {} {} (.start World.pair [⟨"Gemfile"⟩, ⟨"gems.rb"⟩]) [1, 0, 0, 1, 1, 0]).session.exit =
        2 := by
  have hd : World.pair.Distinct [⟨"Gemfile"⟩, ⟨"gems.rb"⟩] := ⟨by decide +kernel, by decide +kernel⟩
  have hrun := interleaved_eq_sequential {} {} hd
  have hdone := hrun.1 [1, 0, 0, 1, 1, 0] (by decide)
  have hfails : World.pair.fails ⟨"gems.rb"⟩ {} .write = true := by decide +kernel
  refine ⟨hd, hdone, ?_⟩
  rw [(hrun.2 _ _ rfl hdone).2.2.2.1, if_pos]
  exact List.any_eq_true.mpr ⟨⟨"gems.rb"⟩, by simp, hfails⟩

end GemOrder

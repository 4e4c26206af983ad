import GemOrder.Arguments
import GemOrder.World.Process
import GemOrder.World.Settings

namespace GemOrder

/-- What ends a run, or fails for one of its files. -/
inductive Failure where
  | error (e : Error)
  | invalid (fault : Config.Fault)
  /-- Standard input is no text. -/
  | badInput
  | largeInput

namespace Failure

def report : Failure → String
  | .error e => e.report
  | .invalid fault => (Error.config fault).message
  | .badInput => IoError.notText.message
  | .largeInput => s!"stdin input too large (exceeds limit of {maxFileSize / (1024 * 1024)} MB)"

def isNotSorted : Failure → Bool
  | .error e => e.isNotSorted
  | _ => false

end Failure

/-- A configuration as the log shows it. -/
def Config.text (c : Config) : String :=
  "Config \x7b declaration_keyword: " ++ Text.quote c.declarationKeyword ++
    ", scope_keyword: " ++ Text.quote c.scopeKeyword ++
    ", closer_keyword: " ++ Text.quote c.closerKeyword ++
    ", comment_prefix: " ++ Text.quote c.commentPrefix ++
    ", starter_keywords: " ++ Text.quoteAll c.starterKeywords ++
    ", extra_starter_keywords: " ++ Text.quoteAll c.extraStarterKeywords ++
    ", manifest_names: " ++ Text.quoteAll c.manifestNames ++ " \x7d"

/-- A run so far. -/
structure Session where
  world : World
  out : String := ""
  /-- Messages on standard error. -/
  notes : List String := []
  unsorted : Nat := 0
  failed : Nat := 0

/-- A file that fails weighs more than one that is not sorted. -/
def Session.exit (s : Session) : Nat :=
  if 0 < s.failed then 2 else if 0 < s.unsorted then 1 else 0

/-- A run at its end. -/
structure Report where
  world : World
  exit : Nat
  out : String := ""
  notes : List String := []

/-- The manifest that the environment names, if it names one. -/
def World.bundled? (w : World) : Option Path :=
  match w.bundleGemfile with
  | some p => if p == "" then none else some ⟨p⟩
  | none => none

namespace Arguments

variable (a : Arguments)

/-- A message on standard error, unless the run is silent. -/
def note (message : String) : List String :=
  if a.silent then [] else [message]

/-- The configuration that arguments name, or else the one for a path. -/
def chooseConfig (w : World) (start : Path) : Logged (Except Error Config) :=
  match a.config with
  | some p => ⟨[⟨.debug, s!"using explicit config file: {p.text}", []⟩], w.configOf p⟩
  | none =>
    let files := w.configFiles start
    let events :=
      if files.isEmpty then [⟨.debug, s!"no config files discovered for {start.text}", []⟩]
      else files.map fun p => ⟨.debug, s!"discovered config file: {p.text}", []⟩
    ⟨events ++ w.configEvents start, .ok (w.configFor start)⟩

/-- A configuration that can be used. -/
def buildConfig (w : World) (start : Path) : Logged (Except Failure Config) := do
  match ← a.chooseConfig w start with
  | .error e => return .error (.error e)
  | .ok c =>
    Logged.tell [⟨.debug, "configuration", [("config", c.text)]⟩]
    match c.fault? with
    | some fault => return .error (.invalid fault)
    | none => return .ok c

/-- Standard input, sorted to standard output. No more of it is read than shows that it is too
large. -/
def runStdin (w : World) (stdin : Content) : Logged (Except Failure Report) := do
  match ← a.buildConfig w w.here with
  | .error f => return .error f
  | .ok c =>
    match (stdin.take (maxFileSize + 1)).text? with
    | none => return .error .badInput
    | some text =>
      if maxFileSize < text.utf8ByteSize then return .error .largeInput
      else match ← processText c text a.mode with
        | .error e => return .error (.error e)
        | .ok (_, out) => return .ok ⟨w, 0, out, []⟩

/-- The configuration for all files, if arguments name one. -/
def baseConfig (w : World) : Logged (Except Failure (Option Config)) := do
  if a.config.isSome then return (← a.buildConfig w w.here).map some else return .ok none

/-- The names that manifests have, from the configuration of the working directory if there is none
for all files. -/
def manifestNames (w : World) (base : Option Config) : Logged (Except Failure (List String)) := do
  match base with
  | some c => return .ok c.manifestNames
  | none => return (← a.buildConfig w w.here).map Config.manifestNames

/-- The manifest of a run without inputs. -/
def defaultManifest (w : World) (base : Option Config) : Logged (Except Failure Path) := do
  match w.bundled? with
  | some p => ⟨[⟨.debug, s!"using BUNDLE_GEMFILE={p.text}", []⟩], .ok p⟩
  | none =>
    match ← a.manifestNames w base with
    | .error f => return .error f
    | .ok names =>
      let found := w.findManifest w.here names
      Logged.tell (World.foundEvents found)
      return found.mapError .error

/-- The files that a run is to sort. -/
def manifests (w : World) (base : Option Config) : Logged (Except Failure (List Path)) := do
  if a.inputs.isEmpty then return (← a.defaultManifest w base).map ([·])
  else match ← a.manifestNames w base with
    | .error f => return .error f
    | .ok names =>
      Logged.tell (w.collectEvents a.inputs a.exclude)
      return .ok (w.collect a.inputs a.recursive a.exclude names)

/-- Sorts one file, by its own configuration if there is none for all files. -/
def sortFile (w : World) (base : Option Config) (p : Path) :
    Logged (World × Except Failure (Outcome × String)) := do
  match ← (match base with | some c => pure (.ok c) | none => a.buildConfig w p) with
  | .error f => return (w, .error f)
  | .ok c =>
    let (after, result) ← w.processFile p c a.mode
    return (after, result.mapError .error)

/-- What one file adds to a run. -/
def record (s : Session) (p : Path) : World × Except Failure (Outcome × String) → Session
  | (w, .ok (.alreadySorted, out)) =>
    { s with
      world := w
      out := s.out ++ out
      notes := s.notes ++ if a.mode = .write then a.note s!"{p.text}: already sorted" else [] }
  | (w, .ok (.sorted, out)) =>
    { s with
      world := w
      out := s.out ++ out
      notes := s.notes ++ a.note s!"{p.text}: sorted" }
  | (w, .ok (.printed, out)) => { s with world := w, out := s.out ++ out }
  | (w, .error f) =>
    if f.isNotSorted then
      { s with world := w, unsorted := s.unsorted + 1, notes := s.notes ++ a.note f.report }
    else
      { s with
        world := w
        failed := s.failed + 1
        notes := s.notes ++ a.note s!"Error sorting {p.text}: {f.report}" }

def sortNext (base : Option Config) (s : Session) (p : Path) : Logged Session := do
  return a.record s p (← a.sortFile s.world base p)

/-- Sorts all files, one after the other. -/
def sortFiles (w : World) (base : Option Config) (files : List Path) : Logged Session :=
  files.foldlM (a.sortNext base) { world := w }

/-- A run over files. -/
def runFiles (w : World) : Logged (Except Failure Report) := do
  match ← a.baseConfig w with
  | .error f => return .error f
  | .ok base =>
    match ← a.manifests w base with
    | .error f => return .error f
    | .ok [] => return .ok ⟨w, 0, "", a.note "No Gemfiles found to sort."⟩
    | .ok files =>
      let s ← a.sortFiles w base files
      return .ok ⟨s.world, s.exit, s.out, s.notes⟩

/-- A run as a hook, which never fails. -/
def runHook (w : World) : Logged Report := do
  match ← a.buildConfig w w.here with
  | .error f => ⟨[World.skipped f.report], ⟨w, 0, "", []⟩⟩
  | .ok c =>
    let (after, outcome) ← match w.bundled? with
      | some p => w.hookFile p c
      | none => w.runHook w.here c
    let notes :=
      if outcome = some .sorted then a.note "Gemfile gems sorted alphabetically" else []
    return ⟨after, 0, "", notes⟩

/-- The run that arguments ask for. -/
def run (w : World) (stdin : Content) : Logged Report := do
  if a.hook then a.runHook w
  else match ← (if a.readsStdin then a.runStdin w stdin else a.runFiles w) with
    | .ok r => return r
    | .error f =>
      return ⟨w, if f.isNotSorted then 1 else 2, "", a.note s!"gemsort: {f.report}"⟩

/-- The events that are shown: those of the level that the environment asks for, or else the
arguments. -/
def shown (w : World) (log : List Event) : List Event :=
  match w.logLevel with
  | none => log.filter ((Level.default a.debug a.silent).admits ·)
  | some name => log.filter fun e => (Level.ofName? name).any (·.admits e)

end Arguments

end GemOrder

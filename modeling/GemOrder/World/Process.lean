import GemOrder.Process
import GemOrder.World.Manifests

namespace GemOrder

/-- How many bytes a file may have. -/
def maxFileSize : Nat :=
  100 * 1024 * 1024

namespace World

/-- The text of a file that is not too large. -/
def manifestText (w : World) (p : Path) : Except Error String :=
  match w.content p with
  | .error cause => .error (.io cause)
  | .ok c =>
    if maxFileSize < c.size then .error (.tooLarge p c.size maxFileSize)
    else match c.text? with
      | some s => .ok s
      | none => .error (.io .notText)

/-- Sorts the file at a path. Gives the world behind it, the outcome and what is printed. -/
def sortFile (w : World) (p : Path) (c : Config) (mode : Mode) :
    World × Except Error (Outcome × String) :=
  match w.manifestText p with
  | .error e => (w, .error e)
  | .ok text =>
    match c.vocabulary with
    | .error fault => (w, .error (.config fault))
    | .ok v =>
      let sorted := v.sort text
      match emit p.text text sorted mode with
      | .ok (.sorted, out) => (w.writeText p sorted, .ok (.sorted, out))
      | result => (w, result)

def resultEvents (p : Path) : Except Error (Outcome × String) → List Event
  | .error _ => []
  | .ok (.sorted, _) => [⟨.info, "sorted", [("path", p.text)]⟩]
  | .ok (outcome, _) => [⟨.debug, "processed", [("path", p.text), ("outcome", outcome.name)]⟩]

/-- The events of sorting a file with some result. -/
def fileEvents (w : World) (p : Path) (c : Config) (result : Except Error (Outcome × String)) :
    List Event :=
  match w.manifestText p, c.vocabulary with
  | .ok text, .ok v => v.sortEvents text ++ resultEvents p result
  | _, _ => []

/-- Sorts the file at a path, with the events of doing so. -/
def processFile (w : World) (p : Path) (c : Config) (mode : Mode) :
    Logged (World × Except Error (Outcome × String)) :=
  let done := w.sortFile p c mode
  ⟨w.fileEvents p c done.2, done⟩

/-- Says in the log why a hook did nothing. -/
def skipped (message : String) : Event :=
  ⟨.warn, s!"gemsort hook skipped: {message}", []⟩

/-- Sorts a file as a hook does, which only warns if that fails. -/
def hookFile (w : World) (p : Path) (c : Config) : Logged (World × Option Outcome) := do
  let (after, result) ← w.processFile p c .write
  match result with
  | .ok (outcome, _) => return (after, some outcome)
  | .error e => ⟨[skipped e.message], after, none⟩

/-- Sorts the nearest manifest as a hook does. -/
def runHook (w : World) (start : Path) (c : Config) : Logged (World × Option Outcome) := do
  let found := w.findManifest start c.manifestNames
  Logged.tell (foundEvents found)
  match found with
  | .ok p => w.hookFile p c
  | .error e => ⟨[skipped e.message], w, none⟩

end World

end GemOrder

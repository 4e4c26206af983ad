import GemOrder.Error
import GemOrder.Glob
import GemOrder.Log
import GemOrder.Text.Quoted
import GemOrder.World

namespace GemOrder.World

/-- The manifests that could be in a directory or above it, nearest first. -/
def candidates (start : Path) (names : List String) : List Path :=
  start.ancestors.flatMap fun dir => names.map dir.join

def findManifest (w : World) (start : Path) (names : List String) : Except Error Path :=
  match (candidates start names).find? w.isFile with
  | some p => .ok p
  | none => .error (.manifestNotFound start)

def foundEvents : Except Error Path → List Event
  | .ok p => [⟨.debug, "found manifest", [("path", p.text)]⟩]
  | .error _ => []

def isManifest (names : List String) (p : Path) : Bool :=
  p.fileName?.any names.contains

/-- A path is excluded by a pattern for all of it, for its last name, or for any name in it. -/
def isExcluded (patterns : List (List Glob.Token)) (p : Path) : Bool :=
  patterns.any fun pattern =>
    Glob.isMatchOf pattern p.text ||
      p.fileName?.any (Glob.isMatchOf pattern) ||
      p.components.any fun
        | .name s => Glob.isMatchOf pattern s
        | _ => false

/-- The place of a name in a directory. A link there leads elsewhere, by the path along which the
directory is reached. -/
def childPlace? (w : World) (place : Location) (name : String) (p : Path) : Option Location :=
  match w.files.find? (place ++ [name]) with
  | some (.link _) => (w.locate p).toOption
  | _ => some (place ++ [name])

/-- How deep directories are searched. -/
def maxDepth : Nat := 256

/-- All that is at a path and below it, the path itself first. Links are followed, unless they lead
back to a directory on the way (`inside`); what is skipped is not entered. -/
def walk (w : World) (skip : Path → Bool) :
    (depth : Nat) → (inside : List Location) → (place : Location) → Path → List Path
  | 0, _, _, p => [p]
  | depth + 1, inside, place, p =>
    if w.files.isDirectory place then
      p :: (w.files.names place).flatMap fun name =>
        let q := p.join name
        if skip q then []
        else match w.childPlace? place name q with
          | none => []
          | some target =>
            if target != place ++ [name] && (place :: inside).contains target then []
            else w.walk skip depth (place :: inside) target q
    else [p]

/-- All that is below an input. -/
def contents (w : World) (skip : Path → Bool) (input : Path) : List Path :=
  match w.locate input with
  | .ok place => w.walk skip maxDepth [] place input
  | .error _ => []

/-- The manifests that an input stands for. A file stands for itself, whatever its name. -/
def manifestsIn (w : World) (recursive : Bool) (patterns : List (List Glob.Token))
    (names : List String) (input : Path) : List Path :=
  let isOurs := fun p => isManifest names p && w.isFile p
  if w.isFile input then
    if isExcluded patterns input then [] else [input]
  else if w.isDirectory input then
    if recursive then (w.contents (isExcluded patterns) input).filter isOurs
    else ((w.entries input).filter fun p => isOurs p && !isExcluded patterns p).mergeSort Path.le
  else []

/-- The patterns that can be read. -/
def readable (excludes : List String) : List (List Glob.Token) :=
  excludes.filterMap fun x => (Glob.parse x).toOption

def collect (w : World) (inputs : List Path) (recursive : Bool) (excludes names : List String) :
    List Path :=
  inputs.flatMap (w.manifestsIn recursive (readable excludes) names)

def patternEvents (excludes : List String) : List Event :=
  excludes.filterMap fun x =>
    match Glob.parse x with
    | .ok _ => none
    | .error e => some ⟨.warn, s!"ignoring exclude pattern {Text.quote x}: {e.message}", []⟩

def inputEvents (w : World) (inputs : List Path) : List Event :=
  inputs.filterMap fun p =>
    if w.isFile p || w.isDirectory p then none
    else some ⟨.warn, s!"no such file or directory: {p.text}", []⟩

/-- The events of collecting manifests. -/
def collectEvents (w : World) (inputs : List Path) (excludes : List String) : List Event :=
  patternEvents excludes ++ w.inputEvents inputs

end GemOrder.World

import GemOrder.Error
import GemOrder.Log
import GemOrder.Toml
import GemOrder.World

namespace GemOrder.World

/-- The names that configuration files have. -/
def configNames : List String :=
  ["gemsort.toml", ".gemsort.toml"]

def homeDirectory? (w : World) : Option Path :=
  (w.home <|> w.userProfile).map Path.mk

/-- The directory where the search for configuration files starts: that of a file, a directory
itself, and the working directory for a path that leads nowhere. -/
def searchStart? (w : World) (start : Path) : Option Path :=
  if w.isFile start then start.parent?
  else if w.isDirectory start then some start
  else some w.here

/-- The configuration files in a directory. -/
def configsIn (w : World) (dir : Path) : List Path :=
  (configNames.map dir.join).filter w.isFile

/-- Adds those paths to a list that are not in it yet. -/
def addNew (found new : List Path) : List Path :=
  new.foldl (fun ps p => if ps.any p.same then ps else ps ++ [p]) found

/-- The configuration files for a path, in the order in which they are applied: those in the home
directory, then those in the directories that lead to the start, outermost first. -/
def configFiles (w : World) (start : Path) : List Path :=
  let atHome := w.homeDirectory?.toList.flatMap w.configsIn
  let onTheWay := (w.searchStart? start).toList.flatMap fun dir =>
    dir.ancestors.reverse.flatMap w.configsIn
  addNew atHome onTheWay

def readOverlay (w : World) (p : Path) : Except Error Config.Overlay :=
  match w.readText p with
  | .error cause => .error (.io cause)
  | .ok document =>
    match Toml.parse? document with
    | some o => .ok o
    | none => .error (.toml p)

/-- The configuration in one file. -/
def configOf (w : World) (p : Path) : Except Error Config :=
  (w.readOverlay p).map fun o => Config.apply {} o

/-- Applies a configuration file; one that cannot be read is passed over. -/
def applyFile (w : World) (c : Config) (p : Path) : Config :=
  match w.readOverlay p with
  | .ok o => c.apply o
  | .error _ => c

/-- The configuration for a path. -/
def configFor (w : World) (start : Path) : Config :=
  (w.configFiles start).foldl w.applyFile {}

def overlayEvent (w : World) (p : Path) : Event :=
  match w.readOverlay p with
  | .ok _ => ⟨.debug, "applying config file", [("path", p.text)]⟩
  | .error e => ⟨.warn, s!"skipping config file: {e.message}", []⟩

/-- The events of reading the configuration for a path. -/
def configEvents (w : World) (start : Path) : List Event :=
  (w.configFiles start).map w.overlayEvent

end GemOrder.World

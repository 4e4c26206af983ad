import GemOrder.Config
import GemOrder.Files

namespace GemOrder

/-- What can go wrong with a manifest or a configuration file. The keyword of a declaration is looked
for character by character, so that none is too long: there is no error for one that cannot be looked
for. -/
inductive Error where
  | io (cause : IoError)
  | manifestNotFound (start : Path)
  | notSorted (label : String)
  | tooLarge (path : Path) (size limit : Nat)
  | config (fault : Config.Fault)
  /-- The configuration file at a path cannot be read. -/
  | toml (path : Path)
deriving DecidableEq

namespace Error

def message : Error → String
  | .io cause => s!"I/O error: {cause.message}"
  | .manifestNotFound start => s!"Gemfile not found (searched from {start.text})"
  | .notSorted label => s!"{label} is not alphabetically sorted"
  | .tooLarge path size limit =>
    s!"{path.text} is too large ({size} bytes exceeds limit of {limit} bytes)"
  | .config fault => s!"Invalid configuration: {fault.message}"
  | .toml path => s!"Failed to parse config file {path.text}:"

/-- The message with that of its cause behind it. -/
def report : Error → String
  | .io cause => s!"{(Error.io cause).message}: {cause.message}"
  | e => e.message

def isNotSorted : Error → Bool
  | .notSorted _ => true
  | _ => false

end Error

end GemOrder

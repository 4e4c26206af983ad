import GemOrder.Files

namespace GemOrder

/-- The files, the working directory and the environment variables of a run. -/
structure World where
  files : Files
  directory : Location := []
  home : Option String := none
  userProfile : Option String := none
  bundleGemfile : Option String := none
  logLevel : Option String := none

namespace World

/-- How many symbolic links may be met on the way along a path. -/
def maxLinks : Nat := 40

/-- The place where a path starts. -/
def base (w : World) (p : Path) : Location :=
  if p.isAbsolute then [] else w.directory

/-- The place that a path leads to. -/
def locate (w : World) (p : Path) : Except IoError Location :=
  if p.text == "" then .error .notFound
  else w.files.resolve (fun _ _ => .error .notFound) maxLinks (w.base p) p.parts

def node? (w : World) (p : Path) : Option Node :=
  (w.locate p).toOption.bind w.files.find?

def isFile (w : World) (p : Path) : Bool :=
  match w.node? p with
  | some (.file _) => true
  | _ => false

def isDirectory (w : World) (p : Path) : Bool :=
  match w.node? p with
  | some (.directory _) => true
  | _ => false

/-- The path of the working directory. -/
def here (w : World) : Path :=
  ⟨"/" ++ "/".intercalate w.directory⟩

def content (w : World) (p : Path) : Except IoError Content := do
  match w.files.find? (← w.locate p) with
  | some (.file c) => .ok c
  | some _ => .error .isDirectory
  | none => .error .notFound

def readText (w : World) (p : Path) : Except IoError String := do
  match (← w.content p).text? with
  | some s => .ok s
  | none => .error .notText

/-- Replaces what the file at a path holds. -/
def writeText (w : World) (p : Path) (text : String) : World :=
  match w.locate p with
  | .ok place => { w with files := w.files.put place (.file (.text text)) }
  | .error _ => w

/-- The paths of what is in a directory. -/
def entries (w : World) (p : Path) : List Path :=
  match w.locate p with
  | .ok place => (w.files.names place).map p.join
  | .error _ => []

end World

section Setup

-- A run only replaces what files hold that are there. What follows is no part of it: it puts the files
-- in place that a run starts from.

/-- Removes what is at a place below. -/
def Node.remove : Node → Location → Node
  | .directory entries, [name] => .directory (entries.filter (·.1 != name))
  | .directory entries, name :: rest =>
    match entries.lookup name with
    | some n => .directory (enter entries name (n.remove rest))
    | none => .directory entries
  | other, _ => other

variable (w : World) (p : Path)

/-- The place that a path leads to if what is missing on the way is made. -/
def World.destination : Location :=
  match w.files.resolve (fun place rest => .ok (Files.placeOf place rest)) maxLinks (w.base p)
    p.parts with
  | .ok place => place
  | .error _ => Files.placeOf (w.base p) p.parts

/-- The place of the last name of a path, where a link is not followed. -/
def World.spot : Location :=
  match p.parent?, p.fileName? with
  | some dir, some name => w.destination dir ++ [name]
  | _, _ => w.destination p

/-- Puts something at a path, with directories on the way to it where nothing is yet. A link is put
where the path says, anything else where a link there leads. A directory that is there stays. -/
def World.create (n : Node) : World :=
  match n with
  | .link _ => { w with files := w.files.put (w.spot p) n }
  | .file _ => { w with files := w.files.put (w.destination p) n }
  | .directory _ =>
    if w.files.isDirectory (w.destination p) then w
    else { w with files := w.files.put (w.destination p) n }

/-- Removes what is at a path and all below it. -/
def World.remove : World :=
  { w with files := ⟨w.files.root.remove (w.spot p)⟩ }

end Setup

end GemOrder

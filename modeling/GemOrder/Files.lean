import GemOrder.Path

namespace GemOrder

/-- The names of the directories that lead to a place, from the root on. -/
abbrev Location := List String

/-- What a file holds: text, bytes that are no text, or a number of zero bytes. -/
inductive Content where
  | text (s : String)
  | raw (bytes : List UInt8)
  | zeros (size : Nat)
deriving DecidableEq

namespace Content

def ofBytes (bytes : ByteArray) : Content :=
  match String.fromUTF8? bytes with
  | some s => .text s
  | none => .raw bytes.toList

def size : Content → Nat
  | .text s => s.utf8ByteSize
  | .raw bytes => bytes.length
  | .zeros n => n

def text? : Content → Option String
  | .text s => some s
  | .raw _ => none
  | .zeros n => some ("".pushn '\x00' n)

/-- The first `limit` bytes. A text that is cut within a character is no text any more, and bytes can
become one. -/
def take (limit : Nat) : Content → Content
  | .text s => if s.utf8ByteSize ≤ limit then .text s else .ofBytes (s.toUTF8.extract 0 limit)
  | .raw bytes => .ofBytes ⟨(bytes.take limit).toArray⟩
  | .zeros n => .zeros (min n limit)

end Content

/-- A file, a symbolic link, or a directory with what is in it by name. -/
inductive Node where
  | file (c : Content)
  | link (target : String)
  | directory (entries : List (String × Node))

/-- Why a file cannot be used. -/
inductive IoError where
  | notFound
  | notDirectory
  | isDirectory
  | tooManyLinks
  | notText
deriving DecidableEq

def IoError.message : IoError → String
  | .notFound => "No such file or directory (os error 2)"
  | .notDirectory => "Not a directory (os error 20)"
  | .isDirectory => "Is a directory (os error 21)"
  | .tooManyLinks => "Too many levels of symbolic links (os error 40)"
  | .notText => "stream did not contain valid UTF-8"

namespace Node

/-- What is at a place below. -/
def find? : Node → Location → Option Node
  | n, [] => some n
  | .directory entries, name :: rest =>
    match entries.lookup name with
    | some n => n.find? rest
    | none => none
  | _, _ :: _ => none

/-- Entries with `n` under a name, in the place of what had that name or else at the end. -/
def enter (entries : List (String × Node)) (name : String) (n : Node) : List (String × Node) :=
  if (entries.lookup name).isSome then
    entries.map fun entry => if entry.1 == name then (name, n) else entry
  else entries ++ [(name, n)]

/-- Puts `n` at a place below, with directories on the way to it where nothing is yet. Below a file
or a link there is no place. -/
def put (n : Node) : Node → Location → Node
  | _, [] => n
  | .directory entries, name :: rest =>
    .directory (enter entries name (put n ((entries.lookup name).getD (.directory [])) rest))
  | other, _ :: _ => other

mutual

/-- The files at a node and below it, with their places. -/
def contents : Node → List (Location × Content)
  | .file c => [([], c)]
  | .link _ => []
  | .directory entries => contentsOf entries

/-- The files among entries and below them, with their places. -/
def contentsOf : List (String × Node) → List (Location × Content)
  | [] => []
  | (name, n) :: rest =>
    (contents n).map (fun (place, c) => (name :: place, c)) ++ contentsOf rest

end

end Node

/-- A tree of files, from its root. -/
structure Files where
  root : Node := .directory []

namespace Files

/-- What is at a place. -/
def find? (t : Files) (place : Location) : Option Node :=
  t.root.find? place

/-- Puts something at a place, with directories on the way to it where nothing is yet. -/
def put (t : Files) (place : Location) (n : Node) : Files :=
  ⟨Node.put n t.root place⟩

/-- The place that names lead to from another one, links apart. -/
def placeOf (base : Location) (names : List String) : Location :=
  names.foldl (fun place name =>
    if Path.isIdle name then place else if name == ".." then place.dropLast else place ++ [name])
    base

/-- What is in a directory, by name; in anything else is nothing. -/
def entries (t : Files) (place : Location) : List (String × Node) :=
  match t.find? place with
  | some (.directory entries) => entries
  | _ => []

/-- The names in a directory, in order. -/
def names (t : Files) (place : Location) : List String :=
  ((t.entries place).map (·.1)).mergeSort fun a b => a ≤ b

def isDirectory (t : Files) (place : Location) : Bool :=
  match t.find? place with
  | some (.directory _) => true
  | _ => false

/-- Goes from a place along names. At a symbolic link it goes on as `follow` says, from the place
and along the names that the link stands for. Where nothing is, it goes on as `missing` says, from
there and along the names that are left. -/
def stroll (t : Files) (missing follow : Location → List String → Except IoError Location)
    (place : Location) : (names : List String) → Except IoError Location
  | [] => .ok place
  | name :: rest =>
    match t.find? place with
    | some (.directory entries) =>
      if Path.isIdle name then t.stroll missing follow place rest
      else if name == ".." then t.stroll missing follow place.dropLast rest
      else match entries.lookup name with
        | none => missing (place ++ [name]) rest
        | some (.link target) =>
          follow (if Path.isAbsolute ⟨target⟩ then [] else place) (Path.parts ⟨target⟩ ++ rest)
        | some _ => t.stroll missing follow (place ++ [name]) rest
    | _ => .error .notDirectory

/-- The place that names lead to from another one, through at most `links` symbolic links. -/
def resolve (t : Files) (missing : Location → List String → Except IoError Location) :
    (links : Nat) → Location → List String → Except IoError Location
  | 0, place, names => t.stroll missing (fun _ _ => .error .tooManyLinks) place names
  | links + 1, place, names =>
    t.stroll missing (fun p ns => t.resolve missing links p ns) place names

end Files

end GemOrder

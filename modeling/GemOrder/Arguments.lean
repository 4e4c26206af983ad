import GemOrder.Process

namespace GemOrder

structure Arguments where
  inputs : List Path := []
  check : Bool := false
  stdout : Bool := false
  diff : Bool := false
  config : Option Path := none
  recursive : Bool := false
  exclude : List String := []
  jobs : Option Nat := none
  hook : Bool := false
  debug : Bool := false
  silent : Bool := false

namespace Arguments

def mode (a : Arguments) : Mode :=
  if a.check then .check else if a.diff then .diff else if a.stdout then .stdout else .write

/-- A single dash as the only input stands for standard input. -/
def readsStdin (a : Arguments) : Bool :=
  a.inputs == [⟨"-"⟩]

/-- Why arguments start no run: they ask for something else, or they are wrong. -/
inductive Refusal where
  | help
  | version
  | unknown
  | badValue
  | unparsedValue
  | needlessValue
  | conflict
deriving DecidableEq

inductive Flag where
  | check
  | stdout
  | diff
  | recursive
  | hook
  | debug
  | silent
  | help
  | version
deriving DecidableEq

/-- The options that take a value. -/
inductive Valued where
  | config
  | exclude
  | jobs
deriving DecidableEq

def long? : String → Option (Flag ⊕ Valued)
  | "check" => some (.inl .check)
  | "stdout" => some (.inl .stdout)
  | "diff" => some (.inl .diff)
  | "config" => some (.inr .config)
  | "recursive" => some (.inl .recursive)
  | "exclude" => some (.inr .exclude)
  | "jobs" => some (.inr .jobs)
  | "hook" => some (.inl .hook)
  | "debug" => some (.inl .debug)
  | "silent" => some (.inl .silent)
  | "help" => some (.inl .help)
  | "version" => some (.inl .version)
  | _ => none

def short? : Char → Option (Flag ⊕ Valued)
  | 'c' => some (.inl .check)
  | 's' => some (.inl .stdout)
  | 'd' => some (.inl .diff)
  | 'r' => some (.inl .recursive)
  | 'e' => some (.inr .exclude)
  | 'j' => some (.inr .jobs)
  | 'D' => some (.inl .debug)
  | 'S' => some (.inl .silent)
  | 'h' => some (.inl .help)
  | 'V' => some (.inl .version)
  | _ => none

/-- Sets a flag that is not set yet. -/
def raise (a : Arguments) : Flag → Except Refusal Arguments
  | .check => if a.check then .error .conflict else .ok { a with check := true }
  | .stdout => if a.stdout then .error .conflict else .ok { a with stdout := true }
  | .diff => if a.diff then .error .conflict else .ok { a with diff := true }
  | .recursive => if a.recursive then .error .conflict else .ok { a with recursive := true }
  | .hook => if a.hook then .error .conflict else .ok { a with hook := true }
  | .debug => if a.debug then .error .conflict else .ok { a with debug := true }
  | .silent => if a.silent then .error .conflict else .ok { a with silent := true }
  | .help => .error .help
  | .version => .error .version

/-- A number of jobs: digits, perhaps behind a plus, for a number of 64 bits. -/
def jobCount? (value : String) : Option Nat :=
  let digits := match value.toList with
    | '+' :: cs => cs
    | cs => cs
  if digits.isEmpty || !digits.all Char.isDigit then none
  else
    let n := digits.foldl (fun n c => 10 * n + (c.toNat - '0'.toNat)) 0
    if n < UInt64.size then some n else none

/-- Gives a value to an option. Only `exclude` takes more than one. -/
def assign (a : Arguments) (value : String) : Valued → Except Refusal Arguments
  | .exclude => .ok { a with exclude := a.exclude ++ [value] }
  | .config =>
    if a.config.isSome then .error .conflict
    else if value == "" then .error .badValue
    else .ok { a with config := some ⟨value⟩ }
  | .jobs =>
    if a.jobs.isSome then .error .conflict
    else match jobCount? value with
      | some n => .ok { a with jobs := some n }
      | none => .error .unparsedValue

/-- What is read and not settled yet. -/
inductive Pending where
  | none
  | option (o : Valued) (value : Option String)
  | inputs (ps : List String)
deriving DecidableEq

/-- Settles what is pending: an option needs a value, and no input is empty. -/
def settle (a : Arguments) : Pending → Except Refusal Arguments
  | .none => .ok a
  | .option _ none => .error .badValue
  | .option o (some value) => a.assign value o
  | .inputs ps =>
    if ps.contains "" then .error .badValue
    else .ok { a with inputs := a.inputs ++ ps.map Path.mk }

/-- What has been read so far. -/
structure State where
  settled : Arguments := {}
  pending : Pending := .none

namespace State

def settle (s : State) : Except Refusal State :=
  (s.settled.settle s.pending).map fun a => ⟨a, .none⟩

def raise (s : State) (f : Flag) : Except Refusal State := do
  let s ← s.settle
  return { s with settled := ← s.settled.raise f }

/-- Gives an option the value that is attached to it. -/
def assign (s : State) (o : Valued) (value : String) : Except Refusal State := do
  let s ← s.settle
  return { s with settled := ← s.settled.assign value o }

/-- Leaves an option without a value for now. -/
def await (s : State) (o : Valued) : Except Refusal State := do
  let s ← s.settle
  return { s with pending := .option o none }

def addInput (s : State) (p : String) : Except Refusal State :=
  match s.pending with
  | .inputs ps => .ok { s with pending := .inputs (ps ++ [p]) }
  | _ => do
    let s ← s.settle
    return { s with pending := .inputs [p] }

/-- A long option, with the value behind its equals sign if there is one. -/
def long (s : State) (name : String) (value : Option String) : Except Refusal State :=
  match long? name, value with
  | none, _ => .error .unknown
  | some (.inl f), none => s.raise f
  | some (.inl _), some _ => .error .needlessValue
  | some (.inr o), some value => s.assign o value
  | some (.inr o), none => s.await o

/-- Short flags in a row. An option takes the rest of the row as its value, but for one equals
sign. -/
def short (s : State) : List Char → Except Refusal State
  | [] => .ok s
  | c :: cs =>
    match short? c with
    | none => .error .unknown
    | some (.inl f) => do short (← s.raise f) cs
    | some (.inr o) =>
      match cs with
      | [] => s.await o
      | '=' :: value => s.assign o (String.ofList value)
      | value => s.assign o (String.ofList value)

/-- An argument that is no flag: the value of the option before it, or an input. -/
def plain (s : State) (arg : String) : Except Refusal State :=
  match s.pending with
  | .option o none => .ok { s with pending := .option o (some arg) }
  | _ => s.addInput arg

/-- One argument, before any double dash. -/
def next (s : State) (arg : String) : Except Refusal State :=
  match arg.toList with
  | '-' :: '-' :: cs =>
    let name := cs.takeWhile (· != '=')
    let value := match cs.dropWhile (· != '=') with
      | [] => none
      | _ :: value => some (String.ofList value)
    s.long (String.ofList name) value
  | '-' :: c :: cs => s.short (c :: cs)
  | _ => s.plain arg

/-- All arguments; those behind a double dash are inputs. -/
def read (s : State) : List String → Except Refusal State
  | [] => s.settle
  | "--" :: args => do (← args.foldlM addInput s).settle
  | arg :: args => do (← s.next arg).read args

end State

/-- Which flags exclude each other. -/
def clashes (a : Arguments) : Bool :=
  (a.check && (a.stdout || a.diff)) || (a.diff && a.stdout)

/-- Reads arguments from left to right. An option that takes a value is settled when the next argument
is read, and so are inputs, so that mistakes in them show up late. -/
def parse (args : List String) : Except Refusal Arguments := do
  let s ← State.read {} args
  if s.settled.clashes then .error .conflict else .ok s.settled

end Arguments

end GemOrder

namespace GemOrder

inductive Level where
  | trace
  | debug
  | info
  | warn
  | error
deriving DecidableEq

namespace Level

def rank : Level → Nat
  | .trace => 0
  | .debug => 1
  | .info => 2
  | .warn => 3
  | .error => 4

def name : Level → String
  | .trace => "TRACE"
  | .debug => "DEBUG"
  | .info => "INFO"
  | .warn => "WARN"
  | .error => "ERROR"

/-- The level that a name stands for, whatever its case; no name at all stands for errors. -/
def ofName? (name : String) : Option Level :=
  match name.toLower with
  | "trace" => some .trace
  | "debug" => some .debug
  | "info" => some .info
  | "warn" => some .warn
  | "error" | "" => some .error
  | _ => none

/-- The least level to be shown. -/
def default (debug silent : Bool) : Level :=
  if debug then .debug else if silent then .error else .warn

end Level

structure Event where
  level : Level
  message : String
  /-- Named values, in the order in which they are shown. -/
  fields : List (String × String) := []

/-- Whether an event is at a level or above it. -/
def Level.admits (l : Level) (e : Event) : Bool :=
  l.rank ≤ e.level.rank

/-- Writes out a character that a terminal would act on: to ring, to step back, to feed a page, to
delete, or to take as a command what follows. -/
def tame (c : Char) : List Char :=
  match c with
  | '\x07' => "\\x07".toList
  | '\x08' => "\\x08".toList
  | '\x0c' => "\\x0c".toList
  | '\x1b' => "\\x1b".toList
  | '\x7f' => "\\x7f".toList
  | _ =>
    if 0x80 ≤ c.toNat && c.toNat ≤ 0x9F then
      "\\u\x7b".toList ++ Nat.toDigits 16 c.toNat ++ ['\x7d']
    else [c]

/-- An event in one line, its level first. The message is tamed, the fields are shown as they
are. -/
def Event.text (e : Event) : String :=
  e.level.name ++ " " ++ String.ofList (e.message.toList.flatMap tame) ++
    String.join (e.fields.map fun (k, x) => " " ++ k ++ "=" ++ x)

/-- A value with the events on the way to it. -/
structure Logged (α : Type) where
  log : List Event
  value : α

namespace Logged

def bind (x : Logged α) (f : α → Logged β) : Logged β :=
  ⟨x.log ++ (f x.value).log, (f x.value).value⟩

instance : Monad Logged where
  pure a := ⟨[], a⟩
  bind := bind

def tell (es : List Event) : Logged Unit :=
  ⟨es, ()⟩

end Logged

end GemOrder

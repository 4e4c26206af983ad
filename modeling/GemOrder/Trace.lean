import GemOrder.Log
import GemOrder.Sorter

namespace GemOrder

def Scope.Finding.event : Scope.Finding → Event
  | .closed s =>
    ⟨.trace, "located scope", [("header", toString s.header), ("closer", toString s.closer)]⟩
  | .unclosed i =>
    ⟨.debug, "scope header without matching closer, left as text", [("line", toString (i + 1))]⟩

def Region.events (r : Region) : List Event :=
  let line := [("line", toString (r.start + 1))]
  let start := ("start", toString r.start)
  let entries := ("entries", toString r.entries.length)
  (if r.unnamed then [⟨.debug, "declaration without a name, region left unchanged", line⟩]
    else if r.dangling then
      [⟨.debug, "comment trails the last declaration, region left unchanged", line⟩]
    else []) ++
  (if r.unsortable then [⟨.debug, "leaving region unchanged", line⟩]
    else [⟨.trace, "region", [start, ("end", toString r.stop), entries]⟩]) ++
  (if r.sortable then [⟨.trace, "sorted region", [start, entries]⟩] else [])

/-- The events of taking a text apart and sorting it. -/
def Vocabulary.sortEvents (v : Vocabulary) (text : String) : List Event :=
  let ls := (Source.split text.toList).lines
  if ls.isEmpty then []
  else (Scope.search v 0 ls).map Scope.Finding.event ++
    [⟨.debug, "sorting manifest",
      [("lines", toString ls.length), ("scopes", toString (Scope.locate v ls).length)]⟩] ++
    (Sorter.regions v ls).flatMap Region.events

end GemOrder

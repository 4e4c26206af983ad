import GemOrder.Proofs.Extents
import GemOrder.Proofs.Progress
import Mathlib

namespace GemOrder

namespace Scope

variable {lo hi m a b : Nat} {es fs : List Nat}

end Scope

namespace Sorter

variable {v : Vocabulary} {ls : List Line} {start stop i : Nat} {r : Region}

end Sorter

end GemOrder

/-
Linting what was declared.  Any value under a key of signatures is taken over as it is
read, and lint asks each of them for its text.  Elements of a list and keys of a map can be
without one; the characters of a text are texts.  Fields and names never get in the way.
-/
import Kanban.Proofs.Schema.EntitySpelling
import Kanban.Proofs.Schema.TextSignatures

namespace Kanban

namespace Value

variable {items : List Value}

end Value

namespace Entity

end Entity

end Kanban

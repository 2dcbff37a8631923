/-
Reloads that are turned down.  Declarations that cannot be read and names that
stand twice, or that are no keys, are found before anything is replaced.  A signature
that is no text is found only when the new entities are rendered, and a text without
bytes only when its fingerprint is taken: they are registered by then, and stay.
-/
import Kanban.Proofs.Registry.Deliveries
import Kanban.Proofs.Registry.Documents

namespace Kanban

namespace Assembly

end Assembly
end Kanban

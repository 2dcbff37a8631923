/-
What a clean lint promises.  Lint reads one entity after the other: where it finds
nothing, every signature is a text and no field is left out.  That two entities bear
one name it cannot see; registering them can, and this alone stands between a clean
lint of entities whose names are keys and a document with a line for every declared
field.
-/
import Kanban.Proofs.Registry.Documents
import Kanban.Proofs.Run
import Kanban.Proofs.Schema.Omission
import Kanban.Proofs.Schema.Parting

namespace Kanban

namespace Entity

variable {entity : Entity} {entities : List Entity}

end Entity

namespace Registry

end Registry

end Kanban

